import PromptDiagram.Dictionary
import PromptDiagram.Numeric.Floating

/-!
# JSON values

An object keeps its members as they are written, in order and with repeated names; what a name
stands for is the last member of that name. Reading an object through its dictionary forgets order
and repetition, which JSON gives no meaning.
-/

namespace PromptDiagram.Json

open Numeric

/-- A JSON number: a natural number, the negative of a positive one, or a floating-point value in
one of two precisions. -/
inductive Number where
  | natural (n : Nat)
  | negative (n : Nat)
  | double (value : Floating)
  | single (value : Floating)
  deriving DecidableEq

/-- Whether a number is kept as a whole number. -/
def Number.isWhole : Number → Bool
  | .natural _ | .negative _ => true
  | .double _ | .single _ => false

/-- A JSON value. -/
inductive Value where
  | null
  | bool (b : Bool)
  | number (n : Number)
  | text (s : String)
  | array (items : List Value)
  | object (members : List (String × Value))
  deriving Inhabited

/-- The kinds of JSON values. -/
inductive Kind where
  | null
  | boolean
  | number
  | string
  | array
  | object
  deriving DecidableEq

/-- The name of a kind. -/
def Kind.name : Kind → String
  | .null => "null"
  | .boolean => "boolean"
  | .number => "number"
  | .string => "string"
  | .array => "array"
  | .object => "object"

namespace Value

/-- The kind of a value. -/
def kind : Value → Kind
  | .null => .null
  | .bool _ => .boolean
  | .number _ => .number
  | .text _ => .string
  | .array _ => .array
  | .object _ => .object

/-- What a list of members says under a name: the last member of that name. -/
def member? (members : List (String × Value)) (name : String) : Option Value :=
  members.reverse.lookup name

/-- A string or null. -/
def ofOption : Option String → Value
  | some s => .text s
  | none => .null

/-- A natural number. -/
def ofNat (n : Nat) : Value :=
  .number (.natural n)

mutual

/-- The value with the members of every object in ascending order of their names, one a name. -/
def canonical : Value → Value
  | .array items => .array (canonicalItems items)
  | .object members => .object (Dictionary.ofList (canonicalMembers members)).entries
  | value => value

/-- The canonical forms of a list of values. -/
def canonicalItems : List Value → List Value
  | [] => []
  | item :: rest => canonical item :: canonicalItems rest

/-- The members with canonical values. -/
def canonicalMembers : List (String × Value) → List (String × Value)
  | [] => []
  | (name, value) :: rest => (name, canonical value) :: canonicalMembers rest

end

end Value
end PromptDiagram.Json
