import PromptDiagram.Numeric.Reading

/-!
# Settings of the server

Settings are read from variables, which are texts or unset. The helpers here split a text at a
separator and take characters off its end.

The port to listen on and the origins that may read answers. A port that is set must be a number
of 16 bits. Origins are listed with commas between them, and an asterisk among them stands for any.
-/

namespace PromptDiagram.Settings

open Numeric Text

/-! ## Variables -/

/-- The text of each variable that is set. -/
abbrev Variables := String → Option String

/-- The segments of a text between the occurrences of a separator. -/
def segments (separator : Char) : List Char → List (List Char)
  | [] => [[]]
  | c :: rest =>
    if c == separator then [] :: segments separator rest
    else match segments separator rest with
      | [] => [[c]]
      | first :: others => (c :: first) :: others

/-- A text without the occurrences of a character at its end. -/
def dropAtEnd (c : Char) (text : String) : String :=
  String.ofList (text.toList.reverse.dropWhile (· == c)).reverse

/-- The natural number that a text writes between blanks, if it does not exceed a limit. -/
def natural? (limit : Nat) (text : String) : Option Nat :=
  Numeric.natural? limit (trim text.toList)

/-- The natural number that a variable holds, or a default where it is unset, is no number or
exceeds a limit. -/
def naturalOr (settings : Variables) (name : String) (limit standard : Nat) : Nat :=
  ((settings name).bind (natural? limit)).getD standard

/-! ## The server -/

/-- The settings of the server. -/
structure Server where
  port : Nat
  origins : List String
  deriving DecidableEq

/-- Why the settings of the server cannot be used. -/
inductive ServerFailure where
  /-- The port is no port number; the text is as it was set. -/
  | invalidPort (text : String)
  deriving DecidableEq

/-- A failure in words. -/
def ServerFailure.message : ServerFailure → String
  | .invalidPort text => "invalid PORT: " ++ text

/-- The code of a failure. -/
def ServerFailure.code : ServerFailure → String
  | .invalidPort _ => "E_INVALID_PORT"

/-- The port where none is set. -/
def standardPort : Nat := 8000

/-- The greatest port number: it has 16 bits. -/
def greatestPort : Nat := 65535

/-- The origin that stands for any. -/
def anyOrigin : String := "*"

/-- The origins in a list with commas: its segments without blanks around them, where anything is
left. -/
def originsIn (text : String) : List String :=
  ((segments ',' text.toList).map trim).filterMap fun origin =>
    if origin.isEmpty then none else some (String.ofList origin)

/-- The port that is set. -/
def portOf (settings : Variables) : Except ServerFailure Nat :=
  match settings "PORT" with
  | none => .ok standardPort
  | some text =>
    match natural? greatestPort text with
    | some port => .ok port
    | none => .error (.invalidPort text)

/-- The settings that variables hold. -/
def Server.ofVariables (settings : Variables) : Except ServerFailure Server := do
  let port ← portOf settings
  return ⟨port, originsIn ((settings "CORS_ORIGINS").getD anyOrigin)⟩

/-- The settings where nothing is set. -/
def Server.standard : Server := ⟨standardPort, originsIn anyOrigin⟩

/-- Whether any origin may read answers. -/
def Server.allowsAnyOrigin (server : Server) : Bool :=
  server.origins.contains anyOrigin

end PromptDiagram.Settings
