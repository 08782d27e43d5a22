import PromptDiagram.Json.Value
import PromptDiagram.Numeric.Shortest
import PromptDiagram.Text.Character

/-!
# Writing JSON

Values are written in two layouts: without any blanks, and with a line for each item and member,
indented by two spaces a level. Strings escape the quotation mark, the backslash and the control
characters below the space, and nothing else.
-/

namespace PromptDiagram.Json

open Numeric Text

/-- A character within quotation marks. -/
def escapeChar (c : Char) : List Char :=
  if c == '"' then ['\\', '"']
  else if c == '\\' then ['\\', '\\']
  else if c == '\n' then ['\\', 'n']
  else if c == '\r' then ['\\', 'r']
  else if c == '\t' then ['\\', 't']
  else if c.toNat = 8 then ['\\', 'b']
  else if c.toNat = 12 then ['\\', 'f']
  else if c.toNat < 32 then
    let digits := hexadecimal c.toNat
    ['\\', 'u'] ++ List.replicate (4 - digits.length) '0' ++ digits
  else [c]

/-- A string in quotation marks. -/
def quote (s : String) : List Char :=
  '"' :: s.toList.flatMap escapeChar ++ ['"']

/-- The text of a number. -/
def Number.chars : Number → List Char
  | .natural n => decimalDigits n
  | .negative n => '-' :: decimalDigits n
  | .double value => value.dataText .double
  | .single value => value.dataText .single

/-- The text of a truth value. -/
def boolText (b : Bool) : List Char :=
  if b then ['t', 'r', 'u', 'e'] else ['f', 'a', 'l', 's', 'e']

/-- The text of null. -/
def nullText : List Char := ['n', 'u', 'l', 'l']

/-! ## Without blanks -/

mutual

/-- A value written without blanks. -/
def Value.compact : Value → List Char
  | .null => nullText
  | .bool b => boolText b
  | .number n => n.chars
  | .text s => quote s
  | .array [] => ['[', ']']
  | .array (item :: rest) => '[' :: item.compact ++ compactItems rest
  | .object [] => ['{', '}']
  | .object ((name, value) :: rest) =>
    '{' :: quote name ++ ':' :: value.compact ++ compactMembers rest

/-- The items behind the first one, with the closing bracket. -/
def compactItems : List Value → List Char
  | [] => [']']
  | item :: rest => ',' :: item.compact ++ compactItems rest

/-- The members behind the first one, with the closing brace. -/
def compactMembers : List (String × Value) → List Char
  | [] => ['}']
  | (name, value) :: rest => ',' :: quote name ++ ':' :: value.compact ++ compactMembers rest

end

/-! ## With indentation -/

/-- The beginning of a line at a level of indentation. -/
def newLine (level : Nat) : List Char :=
  '\n' :: List.replicate (2 * level) ' '

mutual

/-- A value written with indentation, at a level. -/
def Value.indented (level : Nat) : Value → List Char
  | .null => nullText
  | .bool b => boolText b
  | .number n => n.chars
  | .text s => quote s
  | .array [] => ['[', ']']
  | .array (item :: rest) =>
    '[' :: newLine (level + 1) ++ item.indented (level + 1) ++ indentedItems level rest
  | .object [] => ['{', '}']
  | .object ((name, value) :: rest) =>
    '{' :: newLine (level + 1) ++ quote name ++ [':', ' '] ++ value.indented (level + 1) ++
      indentedMembers level rest

/-- The items behind the first one, with the closing bracket. -/
def indentedItems (level : Nat) : List Value → List Char
  | [] => newLine level ++ [']']
  | item :: rest =>
    ',' :: newLine (level + 1) ++ item.indented (level + 1) ++ indentedItems level rest

/-- The members behind the first one, with the closing brace. -/
def indentedMembers (level : Nat) : List (String × Value) → List Char
  | [] => newLine level ++ ['}']
  | (name, value) :: rest =>
    ',' :: newLine (level + 1) ++ quote name ++ [':', ' '] ++ value.indented (level + 1) ++
      indentedMembers level rest

end

/-- The text of a value without blanks. -/
def Value.print (value : Value) : String :=
  String.ofList value.compact

/-- The text of a value with indentation. -/
def Value.pretty (value : Value) : String :=
  String.ofList (value.indented 0)

end PromptDiagram.Json
