import PromptDiagram.Json.Outline

/-!
# Readers of JSON texts

A reader makes a value of some type of an outline, or says at which fault it stops. There is a
reader for JSON values as such, and readers for the simple types that typed data is made of. What
is not wanted is passed over by a lenient reader, which has no result and notices fewer faults.

A text is decoded by a reader when the reader makes something of its value and nothing but blanks
stands behind it. A fault of the value is reported before one of what stands behind.
-/

namespace PromptDiagram.Json

open Numeric Text

/-- How values of a type are read. -/
abbrev Reader (α : Type) := Outline → Except Fault α

/-! ## Where reading stops -/

/-- The fault at the break of a list of items. -/
def ItemsBreak.fault : ItemsBreak → Fault
  | .closedBehindComma _ offset => .here .trailingComma (offset + 1)
  | .endBehindComma _ offset => .here .endInValue offset
  | .unseparated offset => .here .itemEndExpected (offset + 1)
  | .atEnd offset => .here .endInList offset

/-- The fault at the break of a list of items that is passed over. -/
def ItemsBreak.lenient : ItemsBreak → Fault
  | .closedBehindComma _ offset => .here .valueExpected (offset + 1)
  | cause => cause.fault

/-- The fault at the break of a list of items that should have ended before it. -/
def ItemsBreak.overlong : ItemsBreak → Fault
  | .endBehindComma _ offset => .here .trailingText offset
  | .unseparated offset => .here .trailingText (offset + 1)
  | cause => cause.fault

/-- The fault at the break of a list of members. -/
def MembersBreak.fault : MembersBreak → Fault
  | .closedBehindComma _ offset => .here .trailingComma (offset + 1)
  | .endBehindComma _ offset => .here .endInValue offset
  | .unseparated offset => .here .memberEndExpected (offset + 1)
  | .atEnd offset => .here .endInObject offset
  | .brokenName _ strict _ => strict

/-- The fault at the break of a list of members that is passed over. -/
def MembersBreak.lenient : MembersBreak → Fault
  | .closedBehindComma _ offset => .here .keyExpected (offset + 1)
  | .endBehindComma _ offset => .here .endInObject offset
  | .brokenName _ _ lenient => lenient
  | cause => cause.fault

/-- The fault of a name without a colon. -/
def NoColon.fault (offset : Nat) : NoColon → Fault
  | .atEnd => .here .endInObject offset
  | _ => .here .colonExpected (offset + 1)

/-- The fault of a value in place of a name. -/
def unnamedFault (value : Outline) : Fault :=
  .here .keyExpected (value.start + 1)

/-! ## Passing over -/

mutual

/-- The first fault that matters in a value that is passed over. -/
def Outline.pass : Outline → Except Fault Unit
  | .array _ items => items.pass
  | .object _ members => members.pass
  | .brokenText _ _ lenient => .error lenient
  | .brokenWord _ _ fault => .error fault
  | .broken _ _ lenient => .error lenient
  | .missing offset => .error (.here .endInValue offset)
  | _ => .ok ()

/-- The first fault that matters in items that are passed over. -/
def Items.pass : Items → Except Fault Unit
  | .close _ => .ok ()
  | .item _ value rest => do value.pass; rest.pass
  | .broken cause => .error cause.lenient

/-- The first fault that matters in members that are passed over. -/
def Members.pass : Members → Except Fault Unit
  | .close _ => .ok ()
  | .member _ _ _ value rest => do value.pass; rest.pass
  | .unnamed _ value => .error (unnamedFault value)
  | .uncoloned _ _ offset next => .error (next.fault offset)
  | .broken cause => .error cause.lenient

end

/-! ## Values -/

mutual

/-- The value of an outline, with at most `room` brackets and braces one within the other. -/
def Outline.value (room : Nat) : Outline → Except Fault Value
  | .word _ .null _ => .ok .null
  | .word _ (.bool b) _ => .ok (.bool b)
  | .number _ content _ => content.map .number
  | .text _ content _ => content.map .text
  | .array start items =>
    match room with
    | 0 => .error (.here .tooDeep (start + 1))
    | room + 1 => (items.values room).map .array
  | .object start members =>
    match room with
    | 0 => .error (.here .tooDeep (start + 1))
    | room + 1 => (members.values room).map .object
  | .brokenText _ strict _ => .error strict
  | .brokenWord _ _ fault => .error fault
  | .broken _ strict _ => .error strict
  | .missing offset => .error (.here .endInValue offset)

/-- The values of items. -/
def Items.values (room : Nat) : Items → Except Fault (List Value)
  | .close _ => .ok []
  | .item _ value rest => do
    let first ← value.value room
    let others ← rest.values room
    return first :: others
  | .broken cause => .error cause.fault

/-- The values of members, with their names. -/
def Members.values (room : Nat) : Members → Except Fault (List (String × Value))
  | .close _ => .ok []
  | .member _ name _ value rest => do
    let name ← name.content
    let first ← value.value room
    let others ← rest.values room
    return (name, first) :: others
  | .unnamed _ value => .error (unnamedFault value)
  | .uncoloned _ name offset next => do
    let _ ← name.content
    .error (next.fault offset)
  | .broken cause => .error cause.fault

end

/-- The brackets and braces that may stand one within the other. -/
def greatestDepth : Nat := 127

/-- The reader of JSON values. -/
def readValue : Reader Value :=
  Outline.value greatestDepth

/-! ## Simple types -/

/-- The fault of a value that is of another kind than wanted. A string or number is read to its end
before its kind is seen, an array or object is not even opened. -/
def Outline.mismatch (expected : String) : Outline → Fault
  | .word _ .null stop => .here (.wrongKind .null expected) stop
  | .word _ (.bool b) stop => .here (.wrongKind (.bool b) expected) stop
  | .number _ (.ok n) stop => .here (.wrongKind (.number n) expected) stop
  | .number _ (.error fault) _ => fault
  | .text _ (.ok s) stop => .here (.wrongKind (.text s) expected) stop
  | .text _ (.error fault) _ => fault
  | .array start _ => .here (.wrongKind .sequence expected) start
  | .object start _ => .here (.wrongKind .map expected) start
  | .brokenText _ strict _ => strict
  | .brokenWord _ _ fault => fault
  | .broken _ strict _ => strict
  | .missing offset => .here .endInValue offset

/-- The reader of strings. -/
def readString : Reader String
  | .text _ content _ => content
  | outline => .error (outline.mismatch "a string")

/-- The reader of natural numbers of 64 bits. -/
def readNatural : Reader Nat
  | .number _ (.ok (.natural n)) _ => .ok n
  | .number _ (.ok (.negative n)) stop =>
    .error (.here (.wrongValue (.number (.negative n)) "u64") stop)
  | outline => .error (outline.mismatch "u64")

/-- The reader of null. -/
def readNull : Reader Unit
  | .word _ .null _ => .ok ()
  | outline => .error (outline.mismatch "unit")

/-- A reader that takes null for nothing. What begins like null must be null. -/
def readOption {α : Type} (read : Reader α) : Reader (Option α)
  | .word _ .null _ => .ok none
  | .brokenWord _ .null fault => .error fault
  | outline => (read outline).map some

/-- The items from some index on, each read alike. -/
def readItems {α : Type} (read : Reader α) (index : Nat) : Items → Except Fault (List α)
  | .close _ => .ok []
  | .item _ value rest => do
    let first ← within (.item index) (read value)
    let others ← readItems read (index + 1) rest
    return first :: others
  | .broken cause => .error cause.fault

/-- The reader of lists. -/
def readList {α : Type} (read : Reader α) : Reader (List α)
  | .array _ items => readItems read 0 items
  | outline => .error (outline.mismatch "a sequence")

/-- The members, each value read alike. -/
def readMembers {α : Type} (read : Reader α) : Members → Except Fault (List (String × α))
  | .close _ => .ok []
  | .member _ name _ value rest => do
    let name ← name.content
    let first ← within (.member name) (read value)
    let others ← readMembers read rest
    return (name, first) :: others
  | .unnamed _ value => .error (unnamedFault value)
  | .uncoloned _ name offset next => do
    let _ ← name.content
    .error (next.fault offset)
  | .broken cause => .error cause.fault

/-- The reader of dictionaries; of two members of one name the later one stands. -/
def readDictionary {α : Type} (read : Reader α) : Reader (Dictionary α)
  | .object _ members => (readMembers read members).map Dictionary.ofList
  | outline => .error (outline.mismatch "a map")

/-! ## Names of a fixed set -/

/-- What a name stands for, if it is known. -/
def lookUp {α : Type} (known : List (String × α)) (name : Name) : Except Fault (String × α) := do
  let content ← name.content
  match known.lookup content with
  | some a => return (content, a)
  | none => .error (.here (.unknownName content (known.map Prod.fst)) name.stop)

/-- The end of an object that has one member only. -/
def endOfSingle : Members → Except Fault Unit
  | .close _ => .ok ()
  | .member comma .. => .error (.here .valueExpected comma)
  | .broken (.closedBehindComma comma _) => .error (.here .valueExpected comma)
  | .broken (.endBehindComma comma _) => .error (.here .valueExpected comma)
  | .broken (.unseparated offset) => .error (.here .valueExpected offset)
  | .broken (.atEnd offset) => .error (.here .endInObject offset)
  | .broken (.brokenName comma ..) => .error (.here .valueExpected comma)
  | .unnamed comma _ => .error (.here .valueExpected comma)
  | .uncoloned comma .. => .error (.here .valueExpected comma)

/-- The reader of a name of a fixed set. It is a string, or the only name of an object, whose value
is null. -/
def readNamed {α : Type} (known : List (String × α)) : Reader α
  | .text _ content stop => (lookUp known ⟨content, stop⟩).map Prod.snd
  | .object _ (.member _ name _ value rest) => do
    let (content, a) ← lookUp known name
    within (.member content) (readNull value)
    endOfSingle rest
    return a
  | .object _ (.uncoloned _ name offset next) => do
    let _ ← lookUp known name
    .error (next.fault offset)
  | .object _ (.close stop) => .error (.here .valueExpected stop)
  | .object _ (.unnamed _ value) => .error (unnamedFault value)
  | .object _ (.broken cause) => .error cause.fault
  | .brokenText _ strict _ => .error strict
  | .missing offset => .error (.here .endInValue offset)
  | outline => .error (.here .valueExpected (outline.start + 1))

/-! ## Decoding -/

/-- What a reader makes of a text. -/
def decodeSymbols {α : Type} (read : Reader α) (text : List Symbol) : Except Refusal α :=
  let document := Document.ofText text
  match read document.outline with
  | .error fault => .error (fault.inText text)
  | .ok a =>
    match document.trailing with
    | none => .ok a
    | some offset => .error ((Fault.here .trailingText (offset + 1)).inText text)

/-- What a reader makes of characters. -/
def decodeText {α : Type} (read : Reader α) (text : List Char) : Except Refusal α :=
  decodeSymbols read (symbols text)

/-- What a reader makes of bytes, which need not encode characters. -/
def decodeBytes {α : Type} (read : Reader α) (bytes : List UInt8) : Except Refusal α :=
  decodeSymbols read (decode bytes)

/-- The JSON value of a text. -/
def parse (text : List Char) : Except Refusal Value :=
  decodeText readValue text

end PromptDiagram.Json
