import PromptDiagram.Proofs.Notation.Scanning
import PromptDiagram.Proofs.Render.Lines

/-!
# Scanning lines

A reader of a drawing goes through a line from left to right and takes marks, identifiers and
quoted texts off it. The statements say that each of these is taken as it was written and that
what stands behind it is left untouched.
-/

namespace PromptDiagram

open Text
open Notation (Word word? word?_append skip?)

/-- What follows a mark at the beginning of a text, if the text begins with it. -/
def afterMark? (mark : String) (text : List Char) : Option (List Char) :=
  skip? mark.toList text

/-- A text up to a quotation mark, and what follows the mark. -/
def upToQuote? (text : List Char) : Option (String × List Char) :=
  match text.dropWhile (· != '"') with
  | [] => none
  | _ :: rest => some (String.ofList (text.takeWhile (· != '"')), rest)

/-- A text without a quotation mark. -/
def IsUnquoted (text : String) : Prop :=
  '"' ∉ text.toList

instance (text : String) : Decidable (IsUnquoted text) :=
  inferInstanceAs (Decidable ('"' ∉ text.toList))

/-- What a reader of lines makes of each line, unless it refuses one. -/
def readEach {α : Type} (read? : List Char → Option α) : List String → Option (List α)
  | [] => some []
  | line :: lines => do
    let first ← read? line.toList
    let others ← readEach read? lines
    return first :: others

/-- Characters that are written are taken off a text that begins with them. -/
theorem skip?_append (mark rest : List Char) : skip? mark (mark ++ rest) = some rest := by
  induction mark with
  | nil => cases rest <;> rfl
  | cons c mark ih => simpa [skip?] using ih

/-- A mark is taken off a text that begins with it. -/
theorem afterMark?_append (mark : String) (rest : List Char) :
    afterMark? mark (mark.toList ++ rest) = some rest :=
  skip?_append mark.toList rest

/-- An identifier is taken off a text where what follows does not carry it on. -/
theorem word?_identifier {name : String} (bare : isBare name = true) {rest : List Char}
    (stops : Stops isWord rest) : word? (name.toList ++ rest) = some (name, rest) := by
  have nonempty : name.toList ≠ [] := by
    intro empty
    simp [isBare, empty, isIdentifier] at bare
  simpa using word?_append ⟨name.toList, nonempty, isWord_of_isBare bare⟩ stops

/-- A text without a quotation mark is read up to the one behind it. -/
theorem upToQuote?_append {inside : String} (unquoted : IsUnquoted inside) (rest : List Char) :
    upToQuote? (inside.toList ++ '"' :: rest) = some (inside, rest) := by
  have within : ∀ c ∈ inside.toList, (c != '"') = true := by
    intro c mem
    simpa using ne_of_mem_of_not_mem mem unquoted
  have stops : Stops (· != '"') ('"' :: rest) := stops_cons.mpr (by decide)
  simp only [upToQuote?, dropWhile_run within stops, takeWhile_run within stops,
    String.ofList_toList]

/-- Lines that are written one for each item are read as what the items were written for. -/
theorem readEach_map {α β : Type} {read? : List Char → Option β} {write : α → String} {made : α → β}
    {items : List α} (reads : ∀ item ∈ items, read? (write item).toList = some (made item)) :
    readEach read? (items.map write) = some (items.map made) := by
  induction items with
  | nil => rfl
  | cons item items ih =>
    have first := reads item List.mem_cons_self
    have others := ih fun other mem => reads other (List.mem_cons_of_mem _ mem)
    simp [readEach, first, others]

/-- Lines that stand one after the other are read one after the other. -/
theorem readEach_append {α : Type} {read? : List Char → Option α} {front back : List String}
    {first second : List α} (read : readEach read? front = some first)
    (read' : readEach read? back = some second) :
    readEach read? (front ++ back) = some (first ++ second) := by
  induction front generalizing first with
  | nil =>
    obtain rfl : [] = first := by simpa [readEach] using read
    exact read'
  | cons line front ih =>
    simp only [readEach, Option.bind_eq_bind, Option.bind_eq_some_iff] at read
    obtain ⟨item, here, items, rest, same⟩ := read
    obtain rfl : item :: items = first := by simpa using same
    simp [readEach, here, ih rest]

end PromptDiagram
