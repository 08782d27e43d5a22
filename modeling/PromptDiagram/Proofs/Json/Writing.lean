import PromptDiagram.Proofs.Json.Records
import PromptDiagram.Proofs.Json.Unambiguous

/-!
# What is written is spelled

What is written for an array or an object, in any layout, is the text of an array or an object whose
parts have the texts that are written for them. So it is read back as what its parts are read as,
even where a member is not read as the value that it was written for. By induction on the value,
whatever can be read back is.
-/

namespace PromptDiagram.Json

open Numeric Text

variable (layout : Layout) (level : Nat)

/-! ## Spellings -/

/-- No characters are blanks. -/
theorem areSpaces_nil : AreSpaces [] := by
  simp [AreSpaces]

/-- What is written behind an item closes an array. -/
theorem closes_laidItems (items : List Value) :
    Closes ']' (items.map (Value.laid layout (level + 1))) (laidItems layout level items) := by
  induction items with
  | nil => exact .last (layout.isSpace_gap level)
  | cons item items ih =>
    have next : Closes ']' _ ([] ++ ',' :: (layout.gap (level + 1) ++
        (item.laid layout (level + 1) ++ laidItems layout level items))) :=
      .next areSpaces_nil (layout.isSpace_gap (level + 1)) ih
    simpa [laidItems] using next

/-- What is written for an array is the text of an array. -/
theorem spellsArray_laid (items : List Value) :
    SpellsArray (items.map (Value.laid layout (level + 1)))
      ((Value.array items).laid layout level) := by
  cases items with
  | nil => exact .none areSpaces_nil
  | cons item items =>
    have spelled : SpellsArray _ ('[' :: (layout.gap (level + 1) ++
        (item.laid layout (level + 1) ++ laidItems layout level items))) :=
      .some (layout.isSpace_gap (level + 1)) (closes_laidItems layout level items)
    simpa [Value.laid] using spelled

/-- The text that is written for a member. -/
def laidMember (member : String × Value) : List Char :=
  quote member.1 ++ ':' :: (layout.space ++ member.2.laid layout (level + 1))

/-- What is written for a member is the text of a member. -/
theorem spellsMember_laid (member : String × Value) :
    SpellsMember (quote member.1) (member.2.laid layout (level + 1))
      (laidMember layout level member) :=
  .mk areSpaces_nil layout.isSpace_space

/-- What is written behind a member closes an object. -/
theorem closes_laidMembers (members : List (String × Value)) :
    Closes '}' (members.map (laidMember layout level)) (laidMembers layout level members) := by
  induction members with
  | nil => exact .last (layout.isSpace_gap level)
  | cons member members ih =>
    have next : Closes '}' _ ([] ++ ',' :: (layout.gap (level + 1) ++
        (laidMember layout level member ++ laidMembers layout level members))) :=
      .next areSpaces_nil (layout.isSpace_gap (level + 1)) ih
    simpa [laidMembers, laidMember] using next

/-- The members of an object with the texts that are written for their values. -/
def laidTexts (members : List (String × Value)) : List (String × List Char) :=
  members.map fun member => (member.1, member.2.laid layout (level + 1))

/-- The names of members are kept with their texts. -/
@[simp]
theorem map_fst_laidTexts (members : List (String × Value)) :
    (laidTexts layout level members).map Prod.fst = members.map Prod.fst := by
  simp [laidTexts]

/-- What is written for an object is the text of an object. -/
theorem spellsObject_laid (members : List (String × Value)) :
    SpellsObject (laidTexts layout level members) ((Value.object members).laid layout level) := by
  refine ⟨members.map (laidMember layout level), ?_, ?_⟩
  · rw [laidTexts, List.forall₂_map_left_iff, List.forall₂_map_right_iff, List.forall₂_same]
    exact fun member _ => ⟨quote member.1, spellsString_quote member.1,
      spellsMember_laid layout level member⟩
  · cases members with
    | nil => exact .none areSpaces_nil
    | cons member members =>
      have spelled : Encloses '{' '}' _ ('{' :: (layout.gap (level + 1) ++
          (laidMember layout level member ++ laidMembers layout level members))) :=
        .some (layout.isSpace_gap (level + 1)) (closes_laidMembers layout level members)
      simpa [Value.laid, laidMember] using spelled

/-- The text of a whole number is a number. -/
theorem exists_spellsNumeral {n : Number} (whole : n.isWhole = true) :
    ∃ numeral, SpellsNumeral numeral n.chars := by
  cases n with
  | natural n => exact ⟨_, spellsNumeral_decimalDigits n⟩
  | negative n =>
    have spells : SpellsNumeral ⟨true, decimalDigits n, [], none⟩
        (signText true ++ (decimalDigits n ++ ([] ++ []))) :=
      .mk (isWhole_decimalDigits n) .absent .absent
    exact ⟨_, by simpa [signText, Number.chars] using spells⟩
  | double | single => simp [Number.isWhole] at whole

/-- What is written for a value of whole numbers is a JSON text. -/
theorem isJson_laid {value : Value} (whole : value.isWhole = true) :
    IsJson (value.laid layout level) := by
  induction value using Value.induction generalizing level with
  | null => exact .null
  | bool b => exact .bool b
  | number n =>
    obtain ⟨numeral, spells⟩ := exists_spellsNumeral (by simpa [Value.isWhole] using whole)
    exact .number spells
  | text s => exact .string (spellsString_quote s).isString
  | array items ih =>
    rw [Value.isWhole, areWhole_iff] at whole
    exact .array (spellsArray_laid layout level items)
      (List.forall_mem_map.mpr fun item mem => ih item mem (level + 1) (whole item mem))
  | object members ih =>
    rw [Value.isWhole, areWholeMembers_iff] at whole
    exact (spellsObject_laid layout level members).isJson
      (List.forall_mem_map.mpr fun member mem => ih member mem (level + 1) (whole member mem))

/-- The members of an object of whole numbers are members of any names that it does not repeat. -/
theorem areMembers_laid {known : List String} {members : List (String × Value)}
    (once : ∀ name ∈ known, (members.map Prod.fst).count name ≤ 1)
    (whole : areWholeMembers members = true) :
    AreMembers known (laidTexts layout level members) where
  once := by simpa using once
  others := List.forall_mem_map.mpr fun member mem _ =>
    isJson_laid layout (level + 1) (areWholeMembers_iff.mp whole member mem)

/-! ## Reading back -/

variable {text : List Char} {room : Nat}

/-- Items are the values that each of them is. -/
theorem values_of_have {items : List Value} {inside : Items}
    (has : inside.Have (items.map fun item outline => outline.value room = .ok item)) :
    inside.values room = .ok items := by
  induction items generalizing inside with
  | nil =>
    cases has
    rfl
  | cons item items ih =>
    cases has with
    | item comma first others =>
      simp only [Items.values, first, ih others, bind, Except.bind, pure, Except.pure]

/-- An array is read as what its items are read as. -/
theorem readsAs_array {items : List Value} {texts : List (List Char)}
    (spells : SpellsArray texts text)
    (each : List.Forall₂ (ReadsAs (Outline.value room)) items texts) :
    ReadsAs (Outline.value (room + 1)) (.array items) text := by
  have gives : List.Forall₂ Gives texts
      (items.map fun item outline => outline.value room = .ok item) :=
    List.forall₂_map_right_iff.mpr each.flip
  refine (gives_array spells gives).imp fun outline ⟨start, inside, same, has⟩ => ?_
  rw [same, Outline.value, values_of_have has]
  rfl

/-- Members are read if the value of each of them is. -/
theorem values_of_hold {texts : List (String × List Char)} {members : List (String × Value)}
    (each : List.Forall₂ (fun text member => text.1 = member.1 ∧
      ReadsAs (Outline.value room) member.2 text.2) texts members)
    {inside : Members} (held : inside.Hold (textEntries texts)) :
    inside.values room = .ok members := by
  induction each generalizing inside with
  | nil =>
    obtain ⟨stop, rfl⟩ := held.nil
    rfl
  | @cons text member _ _ first _ ih =>
    obtain ⟨comma, stop, colon, outline, rest, rfl, is, others⟩ := held.cons
    obtain ⟨same, reads⟩ := first
    have value : outline.value room = .ok member.2 := reads.holds is
    simp only [Members.values, value, ih others, bind, Except.bind, pure, Except.pure]
    rw [show (text.1, member.2) = member from Prod.ext same rfl]

/-- An object is read as what its members are read as. -/
theorem readsAs_object {texts : List (String × List Char)} {members : List (String × Value)}
    (spells : SpellsObject texts text)
    (each : List.Forall₂ (fun text member => text.1 = member.1 ∧
      ReadsAs (Outline.value room) member.2 text.2) texts members) :
    ReadsAs (Outline.value (room + 1)) (.object members) text := by
  have values : ∀ text ∈ texts, ∃ property, Gives text.2 property :=
    ((List.forall₂_and_left _ _).mp (each.imp fun _ _ first => ⟨⟨_, first.2⟩, first⟩)).1
  refine (spells.gives values).imp fun outline ⟨start, inside, same, held⟩ => ?_
  rw [same, Outline.value, values_of_hold each held]
  rfl

/-- A value that can be read back is read as itself. -/
theorem readsAs_laid {value : Value} (fits : value.fits room = true) :
    ReadsAs (Outline.value room) value (value.laid layout level) := by
  induction value using Value.induction generalizing room level with
  | null =>
    refine gives_null.imp fun outline found => ?_
    obtain ⟨start, stop, rfl⟩ := found
    rfl
  | bool b =>
    refine (gives_bool b).imp fun outline found => ?_
    obtain ⟨start, stop, rfl⟩ := found
    rfl
  | number n =>
    cases n with
    | natural n =>
      have small : n ≤ greatestNatural := by simpa [Value.fits, Number.fits] using fits
      refine (gives_number (spellsNumeral_decimalDigits n)).imp fun outline found => ?_
      obtain ⟨start, content, stop, rfl, read⟩ := found
      rw [read _ (value_decimalDigits small)]
      rfl
    | negative n => simp [Value.fits, Number.fits] at fits
    | double value => simp [Value.fits, Number.fits] at fits
    | single value => simp [Value.fits, Number.fits] at fits
  | text s =>
    refine (spellsString_quote s).givesName.gives.imp fun outline found => ?_
    obtain ⟨start, content, stop, rfl, rfl⟩ := found
    rfl
  | array items ih =>
    obtain ⟨room, rfl, inside⟩ := fits_array_iff.mp fits
    refine readsAs_array (spellsArray_laid layout level items) ?_
    rw [List.forall₂_map_right_iff, List.forall₂_same]
    exact fun item mem => ih item mem (level + 1) (inside item mem)
  | object members ih =>
    obtain ⟨room, rfl, inside⟩ := fits_object_iff.mp fits
    refine readsAs_object (spellsObject_laid layout level members) ?_
    rw [laidTexts, List.forall₂_map_left_iff, List.forall₂_same]
    exact fun member mem => ⟨rfl, ih member mem (level + 1) (inside member mem)⟩

/-! ## Both layouts -/

/-- A text has no blanks around it that are not its own. -/
theorem padded_self (text : List Char) : Padded text text := by
  have padded : Padded text ([] ++ (text ++ [])) := .mk areSpaces_nil areSpaces_nil
  simpa using padded

variable {value : Value} (fits : value.fits greatestDepth = true)

include fits

/-- A value in any layout is read back. -/
theorem parse_laid : parse (value.laid layout 0) = .ok value :=
  (readsAs_laid layout 0 fits).decodeText (padded_self _)

/-- What is written without blanks is read back. -/
theorem parse_compact : parse value.compact = .ok value := by
  rw [compact_eq_laid 0]
  exact parse_laid .dense fits

/-- What is written with indentation is read back. -/
theorem parse_indented : parse (value.indented 0) = .ok value := by
  rw [indented_eq_laid 0]
  exact parse_laid .airy fits

end PromptDiagram.Json
