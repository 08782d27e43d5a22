import PromptDiagram.Json.Reader
import PromptDiagram.Text.Character

/-!
# Recovering JSON from prose

A reply may hold a JSON object amid prose or code fences. The reply as a whole is tried first, and
after that the part from its first opening brace to its last closing one.
-/

namespace PromptDiagram.Recovery

open Json Text

/-- Why no value is recovered. -/
inductive Failure where
  /-- There is no part in braces. -/
  | noBraces
  /-- The part in braces is no JSON text. -/
  | refused (refusal : Refusal)

/-- A failure in words. -/
def Failure.message : Failure → String
  | .noBraces => "non-JSON content"
  | .refused refusal => "non-JSON content: " ++ refusal.message

/-- A text from its first opening brace on. -/
def fromBrace (text : List Char) : List Char :=
  text.dropWhile (· != '{')

/-- A text up to its last closing brace. -/
def upToBrace (text : List Char) : List Char :=
  (text.reverse.dropWhile (· != '}')).reverse

/-- The part of a text in braces, if there is one. -/
def braced? (text : List Char) : Option (List Char) :=
  match upToBrace (fromBrace text) with
  | [] => none
  | part => some part

/-- The JSON value of a reply. -/
def value (text : String) : Except Failure Value :=
  let text := trim text.toList
  match parse text with
  | .ok value => .ok value
  | .error _ =>
    match braced? text with
    | none => .error .noBraces
    | some part =>
      match parse part with
      | .ok value => .ok value
      | .error refusal => .error (.refused refusal)

end PromptDiagram.Recovery
