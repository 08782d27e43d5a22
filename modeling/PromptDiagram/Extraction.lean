import PromptDiagram.Chat.Types
import PromptDiagram.Instruction
import PromptDiagram.Notation
import PromptDiagram.Recovery
import PromptDiagram.Schema

/-!
# From prompts to graphs

A prompt in the notation is read as it stands. Only a prompt that does not spell out enough is put
to a chat model, and the model's graph is taken if it has a node; whatever else comes of the model,
the graph that the notation gave is kept. So a graph comes of every prompt, an empty one at worst,
and the model is asked at most once.
-/

namespace PromptDiagram

namespace Extraction

/-- Why no graph comes of a chat. -/
inductive Failure where
  | provider (failure : Chat.Failure)
  /-- The reply holds no JSON. -/
  | noJson (why : String)
  /-- The JSON of the reply violates the schema. -/
  | schema (violations : List String)
  deriving DecidableEq

namespace Failure

/-- A failure in words. -/
def message : Failure → String
  | .provider failure => "LLM provider error: " ++ failure.message
  | .noJson why => why
  | .schema violations => "schema mismatch: " ++ "; ".intercalate violations

/-- The code of a failure. -/
def code : Failure → String
  | .provider _ => "E_LLM_PROVIDER"
  | .noJson _ => "E_NON_JSON"
  | .schema _ => "E_SCHEMA_MISMATCH"

/-- Whether a second try may succeed. -/
def isRetryable : Failure → Bool
  | .provider failure => failure.isRetryable
  | _ => false

end Failure

/-- What comes of an extraction. -/
abbrev Result := Except Failure Graph

/-- The chat that asks for the graph of a prompt. -/
def request (options : Chat.Options) (prompt : String) : Chat.Request where
  system := Instruction.text
  messages := [.user prompt]
  options := options

/-- The JSON value in a reply. -/
def replyValue (text : String) : Except Failure Json.Value :=
  match Recovery.value text with
  | .ok value => .ok value
  | .error failure => .error (.noJson failure.message)

/-- The graph that a value describes. -/
def valueGraph (value : Json.Value) : Result :=
  match Schema.validate value with
  | .ok graph => .ok graph
  | .error violations => .error (.schema (violations.map Schema.Violation.describe))

/-- The graph in a reply. -/
def replyGraph (text : String) : Result := do
  let value ← replyValue text
  valueGraph value

/-- The graph in what comes of a chat. -/
def ofOutcome : Chat.Outcome → Result
  | .ok completion => replyGraph completion.text
  | .error failure => .error (.provider failure)

/-- The graph that is used: an extracted one with a node, else the one to fall back on. -/
def firstUsable (result : Result) (fallback : Graph) : Graph :=
  match result with
  | .ok graph => if graph.hasNodes then graph else fallback
  | .error _ => fallback

/-- Extract the graph of a prompt by asking a scripted model. -/
def extract (options : Chat.Options) (prompt : String) (script : Chat.Script) :
    Result × Chat.Script :=
  let (outcome, script) := script.ask (request options prompt)
  (ofOutcome outcome, script)

end Extraction

/-- A chat model to fall back on: with which options it is asked, and what it will answer. -/
structure Extractor where
  options : Chat.Options
  script : Chat.Script

/-- The number of chats so far, which is zero where there is no model to ask. -/
def callsOf (extractor : Option Extractor) : Nat :=
  (extractor.map fun e => e.script.calls).getD 0

/-- The graph of a prompt, and the extractor afterwards. -/
def graphOfPrompt (prompt : String) (extractor : Option Extractor) : Graph × Option Extractor :=
  match Notation.read prompt, extractor with
  | .sufficient graph, _ => (graph, extractor)
  | .insufficient graph, none => (graph, none)
  | .insufficient graph, some extractor =>
    let (result, script) := Extraction.extract extractor.options prompt extractor.script
    (Extraction.firstUsable result graph, some { extractor with script })

end PromptDiagram
