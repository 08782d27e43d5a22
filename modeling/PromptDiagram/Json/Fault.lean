import PromptDiagram.Json.Printer
import PromptDiagram.Text.Hidden
import PromptDiagram.Text.Utf8

/-!
# Faults of JSON texts

A fault says why a text is refused and where: at which byte, and within which member or item. Some
reasons are about JSON itself, some about what the reader of a text wanted to find there. The
place is told in lines and columns, a column being the number of bytes since the last line feed.
-/

namespace PromptDiagram.Json

open Text

/-- What a reader found where it wanted something else. -/
inductive Found where
  | null
  | bool (b : Bool)
  | number (n : Number)
  | text (s : String)
  | sequence
  | map

/-- A text between backquotes. -/
def backquoted (s : String) : String :=
  "`" ++ s ++ "`"

/-- What was found, in words. -/
def Found.describe : Found → String
  | .null => "null"
  | .bool b => "boolean " ++ backquoted (String.ofList (boolText b))
  | .number n =>
    (if n.isWhole then "integer " else "floating point ") ++ backquoted (String.ofList n.chars)
  | .text s => "string " ++ quoted s
  | .sequence => "sequence"
  | .map => "map"

/-- Why a text is refused. -/
inductive Reason where
  /-- The text ends where a value, or the rest of one, should stand. -/
  | endInValue
  | endInList
  | endInObject
  | endInString
  | valueExpected
  | wordExpected
  | colonExpected
  | itemEndExpected
  | memberEndExpected
  | keyExpected
  | trailingComma
  | trailingText
  | badNumber
  | numberTooLarge
  | badEscape
  | loneSurrogate
  | unpairedSurrogate
  | controlCharacter
  | badUnicode
  | tooDeep
  /-- A value is of another kind than wanted. -/
  | wrongKind (found : Found) (expected : String)
  /-- A value is of the wanted kind and out of bounds. -/
  | wrongValue (found : Found) (expected : String)
  /-- A list of fields ends before all fields that it must have. -/
  | wrongLength (length : Nat) (expected : String)
  | missingField (name : String)
  | repeatedField (name : String)
  /-- A name is none of those that are known. -/
  | unknownName (name : String) (known : List String)

/-- The known names, in words. -/
def oneOf : List String → String
  | [first, second] => backquoted first ++ " or " ++ backquoted second
  | names => "one of " ++ ", ".intercalate (names.map backquoted)

/-- A reason in words. -/
def Reason.describe : Reason → String
  | .endInValue => "EOF while parsing a value"
  | .endInList => "EOF while parsing a list"
  | .endInObject => "EOF while parsing an object"
  | .endInString => "EOF while parsing a string"
  | .valueExpected => "expected value"
  | .wordExpected => "expected ident"
  | .colonExpected => "expected `:`"
  | .itemEndExpected => "expected `,` or `]`"
  | .memberEndExpected => "expected `,` or `\x7d`"
  | .keyExpected => "key must be a string"
  | .trailingComma => "trailing comma"
  | .trailingText => "trailing characters"
  | .badNumber => "invalid number"
  | .numberTooLarge => "number out of range"
  | .badEscape => "invalid escape"
  | .loneSurrogate => "lone leading surrogate in hex escape"
  | .unpairedSurrogate => "unexpected end of hex escape"
  | .controlCharacter => "control character (\\u0000-\\u001F) found while parsing a string"
  | .badUnicode => "invalid unicode code point"
  | .tooDeep => "recursion limit exceeded"
  | .wrongKind found expected => "invalid type: " ++ found.describe ++ ", expected " ++ expected
  | .wrongValue found expected => "invalid value: " ++ found.describe ++ ", expected " ++ expected
  | .wrongLength length expected =>
    "invalid length " ++ toString length ++ ", expected " ++ expected
  | .missingField name => "missing field " ++ backquoted name
  | .repeatedField name => "duplicate field " ++ backquoted name
  | .unknownName name known =>
    "unknown variant " ++ backquoted name ++ ", expected " ++ oneOf known

/-- Whether a reason is about what the reader wanted, in a text that is JSON as far as it was
read. -/
def Reason.isAboutData : Reason → Bool
  | .wrongKind .. | .wrongValue .. | .wrongLength .. | .missingField _ | .repeatedField _
  | .unknownName .. => true
  | _ => false

/-- A step from a value into one of its parts. -/
inductive Step where
  | member (name : String)
  | item (index : Nat)
  deriving DecidableEq

/-- The text of a path, its steps separated by points. -/
def pathText : List Step → String
  | [] => ""
  | .item index :: rest => "[" ++ toString index ++ "]" ++ continued rest
  | .member name :: rest => name ++ continued rest
where
  /-- The text of a path that follows another step. -/
  continued : List Step → String
  | [] => ""
  | .item index :: rest => "[" ++ toString index ++ "]" ++ continued rest
  | .member name :: rest => "." ++ name ++ continued rest

/-- A reason, the number of bytes up to the place that it is about, and the way into the value at
which reading stood. -/
structure Fault where
  reason : Reason
  offset : Nat
  path : List Step

/-- A fault of the value that is being read. -/
def Fault.here (reason : Reason) (offset : Nat) : Fault :=
  ⟨reason, offset, []⟩

/-- Reading a part of a value, whose faults lie one step further in. -/
def within {α : Type} (step : Step) : Except Fault α → Except Fault α
  | .ok a => .ok a
  | .error fault => .error { fault with path := step :: fault.path }

/-- A place in a text. -/
structure Position where
  line : Nat
  column : Nat
  deriving DecidableEq

/-- The place behind so many bytes of a text. -/
def positionFrom (position : Position) : Nat → List Symbol → Position
  | 0, _ => position
  | _, [] => position
  | offset + 1, symbol :: rest =>
    if symbol = .char '\n' then positionFrom ⟨position.line + 1, 0⟩ offset rest
    else if offset + 1 ≤ symbol.width then ⟨position.line, position.column + offset + 1⟩
    else
      positionFrom ⟨position.line, position.column + symbol.width⟩ (offset + 1 - symbol.width) rest

/-- Why and where a text is refused, in terms of the text. -/
structure Refusal where
  reason : Reason
  position : Position
  path : List Step

/-- A fault in terms of the text that it was found in. -/
def Fault.inText (text : List Symbol) (fault : Fault) : Refusal :=
  ⟨fault.reason, positionFrom ⟨1, 0⟩ fault.offset text, fault.path⟩

/-- A refusal in words. -/
def Refusal.message (refusal : Refusal) : String :=
  refusal.reason.describe ++ " at line " ++ toString refusal.position.line ++ " column " ++
    toString refusal.position.column

/-- A refusal in words, after the path to where reading stood if it stood within the value. -/
def Refusal.messageWithPath (refusal : Refusal) : String :=
  if refusal.path.isEmpty then refusal.message
  else pathText refusal.path ++ ": " ++ refusal.message

end PromptDiagram.Json
