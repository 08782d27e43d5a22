import PromptDiagram.Json.Shape
import PromptDiagram.Numeric.Reading

/-!
# Chats

What a chat model is asked and what comes of it: messages and options on the one side, a completion
or a failure on the other. Failures bear a code, and the ones that may pass are marked as worth a
second try.

A scripted model answers each chat with the next outcome of a list, whatever it is asked, and fails
once the list is used up. It keeps count of the chats and remembers the last one, so that it shows
who asked for what.
-/

namespace PromptDiagram.Chat

open Json Numeric

/-- A message of a conversation. -/
structure Message where
  role : String
  content : String
  deriving DecidableEq

/-- The message of a user. -/
def Message.user (content : String) : Message := ⟨"user", content⟩

/-- A message that is being read. -/
structure Message.Draft where
  role : Option String := none
  content : Option String := none

/-- How messages are read. -/
def Message.shape : Shape Message.Draft Message where
  name := "Message"
  fields := [
    fieldOf "role" false Message.Draft.role (fun d x => { d with role := some x }) readString,
    fieldOf "content" false Message.Draft.content (fun d x => { d with content := some x })
      readString]
  blank := {}
  finish d := do
    let role ← required "role" d.role
    let content ← required "content" d.content
    return { role, content }

/-- The temperature that is used where none is set: one fifth. -/
def standardTemperature : Floating := .ofRatio .single false 1 5

/-- The limit on tokens that is used where none is set. -/
def standardMaxTokens : Nat := 4096

/-- What a chat is asked for beside its messages. -/
structure Options where
  maxTokens : Nat := standardMaxTokens
  temperature : Floating := standardTemperature
  /-- Whether the answer is asked for as a JSON object. -/
  jsonMode : Bool := true
  deriving DecidableEq

/-- A chat that is asked for. -/
structure Request where
  system : String
  messages : List Message
  options : Options
  deriving DecidableEq

/-- The first choice that a model answered with. -/
structure Completion where
  text : String
  model : String
  /-- Why the model stopped, in its own word; empty where it does not say. -/
  finishReason : String
  promptTokens : Nat
  completionTokens : Nat
  deriving DecidableEq

/-- Whether a model stopped for want of tokens. -/
def Completion.isTruncated (completion : Completion) : Bool :=
  completion.finishReason == "length"

/-- Why a chat fails. -/
inductive Failure where
  /-- A setting has a value that cannot be used. -/
  | invalidSetting (why : String)
  /-- The variable that should hold the key is unset or blank. -/
  | missingKey (name : String)
  /-- The provider is not reached, or its answer is not received. -/
  | transport (why : String)
  /-- The provider answers with a status that is no success. -/
  | status (code : Nat) (body : String)
  /-- The answer holds no completion. -/
  | undecodable (why : String)
  /-- No client can be made. -/
  | client (why : String)
  deriving DecidableEq

namespace Failure

/-- A failure in words. -/
def message : Failure → String
  | .invalidSetting why => "invalid LLM config: " ++ why
  | .missingKey name => "LLM API key not set: " ++ name ++ " is empty or unset"
  | .transport why => "LLM transport failed: " ++ why
  | .status code body => "LLM provider returned " ++ toString code ++ ": " ++ body
  | .undecodable why => "LLM reply could not be decoded: " ++ why
  | .client why => "HTTP client build failed: " ++ why

/-- The code of a failure. -/
def code : Failure → String
  | .invalidSetting _ => "E_LLM_CONFIG"
  | .missingKey _ => "E_LLM_NO_API_KEY"
  | .transport _ => "E_LLM_TRANSPORT"
  | .status .. => "E_LLM_STATUS"
  | .undecodable _ => "E_LLM_DECODE"
  | .client _ => "E_LLM_CLIENT_BUILD"

/-- Whether a second try may succeed: the network failed, or the provider is busy or broken. -/
def isRetryable : Failure → Bool
  | .transport _ => true
  | .status code _ => code == 429 || 500 ≤ code
  | _ => false

end Failure

/-- What comes of a chat. -/
abbrev Outcome := Except Failure Completion

/-! ## Scripted models -/

/-- The outcomes to come, the number of chats so far, and the last of them. -/
structure Script where
  outcomes : List Outcome
  calls : Nat := 0
  last : Option Request := none

/-- The failure of a script that is used up. -/
def exhausted : Failure :=
  .transport "no scripted reply"

/-- The completion that a script gives for a text. -/
def scriptedCompletion (text : String) : Completion where
  text := text
  model := "scripted"
  finishReason := "stop"
  promptTokens := 0
  completionTokens := 0

/-- Ask a scripted model. -/
def Script.ask (script : Script) (request : Request) : Outcome × Script :=
  let next := { script with calls := script.calls + 1, last := some request }
  match script.outcomes with
  | [] => (.error exhausted, next)
  | outcome :: rest => (outcome, { next with outcomes := rest })

end PromptDiagram.Chat
