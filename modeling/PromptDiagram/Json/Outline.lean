import PromptDiagram.Json.Token

/-!
# Outlines of JSON texts

An outline is what a text looks like before anybody wants anything of it: its values, each with its
place, and every place at which a reader would have to stop. What a reader makes of it is decided
later, by recursion on the outline, because readers differ. A value that is wanted is read
strictly, one that is not wanted is passed over, and the two stop at different faults. Whoever
reads an outline from left to right reports the fault that comes first in the text.

Outlines are built in one pass. A broken token ends the text for what stands around it, since no
reader gets past it.
-/

namespace PromptDiagram.Json

open Numeric Text

/-- The words that are values. -/
inductive Word where
  | null
  | bool (b : Bool)
  deriving DecidableEq

/-- A list of items that is not closed where it should go on, and the place. Behind a comma, the
place of the comma comes first. -/
inductive ItemsBreak where
  | closedBehindComma (comma offset : Nat)
  | endBehindComma (comma offset : Nat)
  | unseparated (offset : Nat)
  | atEnd (offset : Nat)

/-- A list of members that is not closed where it should go on, and the place. -/
inductive MembersBreak where
  | closedBehindComma (comma offset : Nat)
  | endBehindComma (comma offset : Nat)
  | unseparated (offset : Nat)
  | atEnd (offset : Nat)
  /-- A name that even a reader who passes it over cannot read; `comma` is as in `Members`. -/
  | brokenName (comma : Nat) (strict lenient : Fault)

/-- A name, or why a strict reader refuses it, and the place behind it. -/
structure Name where
  content : Except Fault String
  stop : Nat

/-- What stands where a colon should. -/
inductive NoColon where
  | brace
  | other
  | atEnd

mutual

/-- A value as it stands in a text. Places are offsets: `start` is that of the value's first byte,
`stop` is that behind its last one. -/
inductive Outline where
  | word (start : Nat) (word : Word) (stop : Nat)
  | number (start : Nat) (content : Except Fault Number) (stop : Nat)
  | text (start : Nat) (content : Except Fault String) (stop : Nat)
  | array (start : Nat) (items : Items)
  | object (start : Nat) (members : Members)
  /-- A string that even a reader who passes it over cannot read. -/
  | brokenText (start : Nat) (strict lenient : Fault)
  /-- A value that begins like a word and is none. -/
  | brokenWord (start : Nat) (word : Word) (fault : Fault)
  /-- Any other value that is broken. -/
  | broken (start : Nat) (strict lenient : Fault)
  /-- The end of the text in place of a value. -/
  | missing (offset : Nat)

/-- The items of an array from some item on; `comma` is the place of the comma before an item, or of
the bracket before the first one. -/
inductive Items where
  | close (stop : Nat)
  | item (comma : Nat) (value : Outline) (rest : Items)
  | broken (cause : ItemsBreak)

/-- The members of an object from some member on; `comma` is the place of the comma before a member,
or of the brace before the first one. -/
inductive Members where
  | close (stop : Nat)
  | member (comma : Nat) (name : Name) (colon : Nat) (value : Outline) (rest : Members)
  /-- A value in place of a name. -/
  | unnamed (comma : Nat) (value : Outline)
  /-- A name without a colon behind it. -/
  | uncoloned (comma : Nat) (name : Name) (offset : Nat) (next : NoColon)
  | broken (cause : MembersBreak)

end

/-- The place of a value. -/
def Outline.start : Outline → Nat
  | .word start _ _ => start
  | .number start _ _ => start
  | .text start _ _ => start
  | .array start _ => start
  | .object start _ => start
  | .brokenText start _ _ => start
  | .brokenWord start _ _ => start
  | .broken start _ _ => start
  | .missing offset => offset

/-! ## Building -/

/-- The end of the text, as far as anything around a broken token is concerned. -/
def Cursor.stopped (cursor : Cursor) : Cursor :=
  ⟨cursor.offset, []⟩

/-- The value that a word stands for. -/
def wordOutline (cursor : Cursor) (letters : List Char) (word : Word) : Outline × Cursor :=
  match readWord letters cursor with
  | .ok after => (.word cursor.offset word after.offset, after)
  | .error fault => (.brokenWord cursor.offset word fault, cursor.stopped)

/-- The number at a place. -/
def numberOutline (cursor : Cursor) : Outline × Cursor :=
  match readNumeral cursor with
  | .ok (numeral, after) =>
    let content := match numeral.value with
      | .ok number => .ok number
      | .error beyond => .error (.here .numberTooLarge (after.offset - beyond))
    (.number cursor.offset content after.offset, after)
  | .error broken => (.broken cursor.offset broken.strict broken.lenient, cursor.stopped)

/-- A string whose quotation mark stands before a place, if it can be passed over; else its faults
for a strict and for a lenient reader. -/
def readQuoted (cursor : Cursor) : Except (Fault × Fault) (Name × Cursor) :=
  let strict := readText [] .plain cursor.offset cursor.rest
  match passText .plain cursor.offset cursor.rest with
  | .ok after => .ok (⟨strict.map Prod.fst, after.offset⟩, after)
  | .error lenient =>
    match strict with
    | .ok _ => .error (lenient, lenient)
    | .error fault => .error (fault, lenient)

/-- The string whose quotation mark stands at a place. -/
def textOutline (start : Nat) (cursor : Cursor) : Outline × Cursor :=
  match readQuoted cursor with
  | .ok (name, after) => (.text start name.content name.stop, after)
  | .error (strict, lenient) => (.brokenText start strict lenient, cursor.stopped)

/-- A value that begins with no bracket and no brace, at a place that is no blank. -/
def scalarOutline (cursor : Cursor) : Outline × Cursor :=
  match cursor.rest with
  | [] => (.missing cursor.offset, cursor)
  | .char '"' :: rest => textOutline cursor.offset ⟨cursor.offset + 1, rest⟩
  | .char 'n' :: _ => wordOutline cursor ['n', 'u', 'l', 'l'] .null
  | .char 't' :: _ => wordOutline cursor ['t', 'r', 'u', 'e'] (.bool true)
  | .char 'f' :: _ => wordOutline cursor ['f', 'a', 'l', 's', 'e'] (.bool false)
  | .char c :: _ =>
    if c == '-' || isDigit c then numberOutline cursor
    else
      let fault := .here .valueExpected (cursor.offset + 1)
      (.broken cursor.offset fault fault, cursor.stopped)
  | .stray _ :: _ =>
    let fault := .here .valueExpected (cursor.offset + 1)
    (.broken cursor.offset fault fault, cursor.stopped)

mutual

/-- The value behind the blanks at a place, and the place behind it. Each call uses up one unit of
fuel and each value at least one symbol, so that twice the length of the text is enough. -/
def outlineAt : Nat → Cursor → Outline × Cursor
  | 0, cursor => (.missing cursor.offset, cursor.stopped)
  | fuel + 1, cursor =>
    let cursor := cursor.skip
    match cursor.rest with
    | .char '[' :: rest =>
      let inside := skipSpaces (cursor.offset + 1) rest
      let (items, after) := match inside.rest with
        | .char ']' :: behind => (.close (inside.offset + 1), ⟨inside.offset + 1, behind⟩)
        | [] => (.broken (.atEnd inside.offset), inside)
        | _ => itemsAt fuel cursor.offset inside
      (.array cursor.offset items, after)
    | .char '{' :: rest =>
      let inside := skipSpaces (cursor.offset + 1) rest
      let (members, after) := match inside.rest with
        | .char '}' :: behind => (.close (inside.offset + 1), ⟨inside.offset + 1, behind⟩)
        | [] => (.broken (.atEnd inside.offset), inside)
        | _ => membersAt fuel cursor.offset inside
      (.object cursor.offset members, after)
    | _ => scalarOutline cursor

/-- The items of an array from the item at a place on. -/
def itemsAt : Nat → Nat → Cursor → Items × Cursor
  | 0, _, cursor => (.broken (.atEnd cursor.offset), cursor.stopped)
  | fuel + 1, comma, cursor =>
    let (value, after) := outlineAt fuel cursor
    let after := after.skip
    let (rest, last) := match after.rest with
      | .char ']' :: behind => (.close (after.offset + 1), ⟨after.offset + 1, behind⟩)
      | .char ',' :: behind =>
        let next := skipSpaces (after.offset + 1) behind
        match next.rest with
        | .char ']' :: _ => (.broken (.closedBehindComma after.offset next.offset), next.stopped)
        | [] => (.broken (.endBehindComma after.offset next.offset), next)
        | _ => itemsAt fuel after.offset next
      | [] => (.broken (.atEnd after.offset), after)
      | _ => (.broken (.unseparated after.offset), after.stopped)
    (.item comma value rest, last)

/-- The members of an object from the member at a place on. -/
def membersAt : Nat → Nat → Cursor → Members × Cursor
  | 0, _, cursor => (.broken (.atEnd cursor.offset), cursor.stopped)
  | fuel + 1, comma, cursor =>
    match cursor.rest with
    | .char '"' :: rest =>
      match readQuoted ⟨cursor.offset + 1, rest⟩ with
      | .error (strict, lenient) => (.broken (.brokenName comma strict lenient), cursor.stopped)
      | .ok (name, behind) =>
        let colon := behind.skip
        match colon.rest with
        | .char ':' :: rest =>
          let (value, after) := outlineAt fuel ⟨colon.offset + 1, rest⟩
          let after := after.skip
          let (rest, last) := match after.rest with
            | .char '}' :: behind => (.close (after.offset + 1), ⟨after.offset + 1, behind⟩)
            | .char ',' :: behind =>
              let next := skipSpaces (after.offset + 1) behind
              match next.rest with
              | .char '}' :: _ =>
                (.broken (.closedBehindComma after.offset next.offset), next.stopped)
              | [] => (.broken (.endBehindComma after.offset next.offset), next)
              | _ => membersAt fuel after.offset next
            | [] => (.broken (.atEnd after.offset), after)
            | _ => (.broken (.unseparated after.offset), after.stopped)
          (.member comma name colon.offset value rest, last)
        | [] => (.uncoloned comma name colon.offset .atEnd, colon)
        | .char '}' :: _ => (.uncoloned comma name colon.offset .brace, colon.stopped)
        | _ => (.uncoloned comma name colon.offset .other, colon.stopped)
    | _ => (.unnamed comma (outlineAt fuel cursor).1, cursor.stopped)

end

/-- A text as a value, and the place of what stands behind the value, if anything does. -/
structure Document where
  outline : Outline
  trailing : Option Nat

/-- The document of a text. -/
def Document.ofText (text : List Symbol) : Document :=
  let (outline, after) := outlineAt (2 * text.length + 2) ⟨0, text⟩
  let after := after.skip
  ⟨outline, if after.rest.isEmpty then none else some after.offset⟩

end PromptDiagram.Json
