import PromptDiagram.Json.Reader

/-!
# Shapes

A shape says which fields a type has and how they are read. Data of a shape is an object, whose
members stand in any order, or an array of the fields in the order of the shape. A field may not
be given twice. Members that the shape does not know are passed over. What is missing at the end
is decided by the shape: from an object, whatever the type can do without, and from an array only
the fields that may be cut off.

Fields are read in the order of the text into a draft, so that the first fault of the text is the
one that is reported, and the draft is finished once the text is closed.
-/

namespace PromptDiagram.Json

/-- A field of data that is drafted as `δ`. -/
structure Field (δ : Type) where
  name : String
  /-- Whether arrays may end before this field. -/
  mayBeCut : Bool
  isGiven : δ → Bool
  read : Outline → δ → Except Fault δ

/-- How data of a type `α` is read by way of drafts. -/
structure Shape (δ α : Type) where
  name : String
  fields : List (Field δ)
  blank : δ
  /-- The finished data, or the name of the first field that is missing. -/
  finish : δ → Except String α

namespace Shape

variable {δ α : Type}

/-- The field of a name. -/
def field? (shape : Shape δ α) (name : String) : Option (Field δ) :=
  shape.fields.find? fun field => field.name == name

/-- Finish the draft of a text that is closed before a place. -/
def close (shape : Shape δ α) (draft : δ) (stop : Nat) : Except Fault α :=
  match shape.finish draft with
  | .ok a => .ok a
  | .error name => .error (.here (.missingField name) stop)

/-- Read the members of an object into a draft. The fault of a repeated name lies where the text
stands once its colon, or a brace in place of it, is in sight. -/
def readMembers (shape : Shape δ α) (draft : δ) : Members → Except Fault α
  | .close stop => shape.close draft stop
  | .member _ name colon value rest => do
    let name ← name.content
    match shape.field? name with
    | some field =>
      if field.isGiven draft then .error (.here (.repeatedField name) colon)
      else
        let draft ← within (.member name) (field.read value draft)
        readMembers shape draft rest
    | none =>
      within (.member name) value.pass
      readMembers shape draft rest
  | .unnamed _ value => .error (unnamedFault value)
  | .uncoloned _ name offset next => do
    let name ← name.content
    let repeated := (shape.field? name).any fun field => field.isGiven draft
    if repeated then
      let behind := match next with
        | .brace => offset + 1
        | _ => offset
      .error (.here (.repeatedField name) behind)
    else .error (next.fault offset)
  | .broken cause => .error cause.fault

/-- The number of elements in words. -/
def elements : Nat → String
  | 1 => "1 element"
  | n => toString n ++ " elements"

/-- The fault of an array that ends behind so many items. -/
def tooShort (shape : Shape δ α) (length stop : Nat) : Fault :=
  .here (.wrongLength length
    ("struct " ++ shape.name ++ " with " ++ elements shape.fields.length)) stop

/-- Read the items of an array into a draft, one for each field that is left. -/
def readItems (shape : Shape δ α) (index : Nat) (draft : δ) :
    List (Field δ) → Items → Except Fault α
  | [], .close stop => shape.close draft stop
  | [], .item _ value _ => .error (.here .trailingText (value.start + 1))
  | [], .broken cause => .error cause.overlong
  | field :: fields, .item _ value rest => do
    let draft ← within (.item index) (field.read value draft)
    readItems shape (index + 1) draft fields rest
  | field :: fields, .close stop =>
    if field.mayBeCut then readItems shape (index + 1) draft fields (.close stop)
    else .error (shape.tooShort index stop)
  | _ :: _, .broken cause => .error cause.fault

/-- The reader of a shape. -/
def reader (shape : Shape δ α) : Reader α
  | .object _ members => shape.readMembers shape.blank members
  | .array _ items => shape.readItems 0 shape.blank shape.fields items
  | outline => .error (outline.mismatch ("struct " ++ shape.name))

end Shape

/-- A field that is read into its place in the draft. -/
def fieldOf {δ β : Type} (name : String) (mayBeCut : Bool) (get : δ → Option β)
    (set : δ → β → δ) (read : Reader β) : Field δ where
  name := name
  mayBeCut := mayBeCut
  isGiven draft := (get draft).isSome
  read outline draft := (read outline).map (set draft)

/-- A field that a draft must have, by its name. -/
def required {β : Type} (name : String) (drafted : Option β) : Except String β :=
  match drafted with
  | some b => .ok b
  | none => .error name

end PromptDiagram.Json
