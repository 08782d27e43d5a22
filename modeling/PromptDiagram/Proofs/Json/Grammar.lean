import Mathlib.Data.List.Forall2
import PromptDiagram.Json.Outline

/-!
# JSON texts

What counts as a JSON text, whoever reads it. Any blanks may stand between its tokens, a character
of a string may be written in several ways, a number may have a fraction and an exponent, and the
members of an object may stand in any order and bear any names. Nothing here depends on how texts
are read, and no bound is set on the size of a number or on the depth of a value.

Arrays and objects are described by the texts of their items and members, so that a text of which
only some parts matter can be described by those.
-/

namespace PromptDiagram.Json

open Numeric Text

/-- Whether characters are blanks, as they may stand between tokens. -/
def AreSpaces (text : List Char) : Prop :=
  ∀ c ∈ text, isSpace c = true

/-! ## Strings -/

/-- The letters that may stand behind a backslash, and the characters that they stand for. -/
def shortEscapes : List (Char × Char) :=
  [('"', '"'), ('\\', '\\'), ('/', '/'), ('b', Char.ofNat 8), ('f', Char.ofNat 12), ('n', '\n'),
    ('r', '\r'), ('t', '\t')]

/-- Four hexadecimal digits, in either case, and the code unit that they write. -/
inductive SpellsUnit : Nat → List Char → Prop where
  | mk {a b c d : Char} {i j k l : Nat} : hexValue? a = some i → hexValue? b = some j →
      hexValue? c = some k → hexValue? d = some l →
      SpellsUnit (16 * (16 * (16 * i + j) + k) + l) [a, b, c, d]

/-- What may stand between quotation marks, piece by piece: a character, a letter behind a
backslash, or a code unit, which may be half a surrogate pair. -/
inductive IsPiece : List Char → Prop where
  | plain {c : Char} : c ≠ '"' → c ≠ '\\' → ¬ c.toNat < 32 → IsPiece [c]
  | letter {letter c : Char} : (letter, c) ∈ shortEscapes → IsPiece ['\\', letter]
  | unit {n : Nat} {digits : List Char} : SpellsUnit n digits → IsPiece ('\\' :: 'u' :: digits)

/-- The ways to write a character between quotation marks. One beyond the first 65536 has two code
units. -/
inductive SpellsChar : Char → List Char → Prop where
  | plain {c : Char} : c ≠ '"' → c ≠ '\\' → ¬ c.toNat < 32 → SpellsChar c [c]
  | letter {letter c : Char} : (letter, c) ∈ shortEscapes → SpellsChar c ['\\', letter]
  | unit {n : Nat} {digits : List Char} : SpellsUnit n digits → n < 0xD800 ∨ 0xDFFF < n →
      SpellsChar (Char.ofNat n) ('\\' :: 'u' :: digits)
  | pair {high low : Nat} {digits digits' : List Char} : SpellsUnit high digits →
      0xD800 ≤ high → high ≤ 0xDBFF → SpellsUnit low digits' → 0xDC00 ≤ low → low ≤ 0xDFFF →
      SpellsChar (Char.ofNat (0x10000 + (high - 0xD800) * 0x400 + (low - 0xDC00)))
        ('\\' :: 'u' :: digits ++ '\\' :: 'u' :: digits')

/-- A string in quotation marks, which need not make sense. -/
def IsString (text : List Char) : Prop :=
  ∃ pieces : List (List Char), (∀ piece ∈ pieces, IsPiece piece) ∧
    text = '"' :: pieces.flatten ++ ['"']

/-- A given string in quotation marks, character by character. -/
def SpellsString (s : String) (text : List Char) : Prop :=
  ∃ pieces : List (List Char), List.Forall₂ SpellsChar s.toList pieces ∧
    text = '"' :: pieces.flatten ++ ['"']

/-! ## Numbers -/

/-- Whether characters are digits, at least one. -/
def AreDigits (digits : List Char) : Prop :=
  digits ≠ [] ∧ ∀ c ∈ digits, isDigit c = true

/-- The digits before the point, with no zero before another digit. -/
def IsWhole (digits : List Char) : Prop :=
  AreDigits digits ∧ (digits.head? = some '0' → digits = ['0'])

/-- The digits behind the point, and the point if there are any. -/
inductive SpellsFraction : List Char → List Char → Prop where
  | absent : SpellsFraction [] []
  | digits {digits : List Char} : AreDigits digits → SpellsFraction digits ('.' :: digits)

/-- An exponent with a letter in either case and perhaps a sign. -/
inductive SpellsExponent : Option (Bool × List Char) → List Char → Prop where
  | absent : SpellsExponent none []
  | unsigned {letter : Char} {digits : List Char} : letter = 'e' ∨ letter = 'E' →
      AreDigits digits → SpellsExponent (some (false, digits)) (letter :: digits)
  | plus {letter : Char} {digits : List Char} : letter = 'e' ∨ letter = 'E' →
      AreDigits digits → SpellsExponent (some (false, digits)) (letter :: '+' :: digits)
  | minus {letter : Char} {digits : List Char} : letter = 'e' ∨ letter = 'E' →
      AreDigits digits → SpellsExponent (some (true, digits)) (letter :: '-' :: digits)

/-- A number and its parts. -/
inductive SpellsNumeral : Numeral → List Char → Prop where
  | mk {negative : Bool} {whole fraction fractionText exponentText : List Char}
      {exponent : Option (Bool × List Char)} : IsWhole whole →
      SpellsFraction fraction fractionText → SpellsExponent exponent exponentText →
      SpellsNumeral ⟨negative, whole, fraction, exponent⟩
        (signText negative ++ (whole ++ (fractionText ++ exponentText)))

/-! ## Arrays and objects -/

/-- The parts that are left of a list behind its first one, and the mark that closes it. -/
inductive Closes (mark : Char) : List (List Char) → List Char → Prop where
  | last {spaces : List Char} : AreSpaces spaces → Closes mark [] (spaces ++ [mark])
  | next {spaces spaces' part rest : List Char} {parts : List (List Char)} : AreSpaces spaces →
      AreSpaces spaces' → Closes mark parts rest →
      Closes mark (part :: parts) (spaces ++ ',' :: (spaces' ++ (part ++ rest)))

/-- A list of parts between two marks, with commas between the parts. -/
inductive Encloses (first last : Char) : List (List Char) → List Char → Prop where
  | none {spaces : List Char} : AreSpaces spaces →
      Encloses first last [] (first :: (spaces ++ [last]))
  | some {spaces part rest : List Char} {parts : List (List Char)} : AreSpaces spaces →
      Closes last parts rest →
      Encloses first last (part :: parts) (first :: (spaces ++ (part ++ rest)))

/-- The text of an array whose items have given texts. -/
def SpellsArray (items : List (List Char)) (text : List Char) : Prop :=
  Encloses '[' ']' items text

/-- The text of a member whose name, in quotation marks, and value have given texts. -/
inductive SpellsMember (name value : List Char) : List Char → Prop where
  | mk {spaces spaces' : List Char} : AreSpaces spaces → AreSpaces spaces' →
      SpellsMember name value (name ++ (spaces ++ ':' :: (spaces' ++ value)))

/-- The text of an object whose members have given names, and values of given texts. -/
def SpellsObject (members : List (String × List Char)) (text : List Char) : Prop :=
  ∃ parts, List.Forall₂ (fun member part => ∃ name, SpellsString member.1 name ∧
    SpellsMember name member.2 part) members parts ∧ Encloses '{' '}' parts text

/-- A JSON text without blanks around it. -/
inductive IsJson : List Char → Prop where
  | null : IsJson nullText
  | bool (b : Bool) : IsJson (boolText b)
  | number {numeral : Numeral} {text : List Char} : SpellsNumeral numeral text → IsJson text
  | string {text : List Char} : IsString text → IsJson text
  | array {items : List (List Char)} {text : List Char} : SpellsArray items text →
      (∀ item ∈ items, IsJson item) → IsJson text
  | object {values parts : List (List Char)} {text : List Char} :
      List.Forall₂ (fun value part => ∃ name, IsString name ∧ SpellsMember name value part)
        values parts →
      Encloses '{' '}' parts text → (∀ value ∈ values, IsJson value) → IsJson text

/-- A text with any blanks around it. -/
inductive Padded (text : List Char) : List Char → Prop where
  | mk {before after : List Char} : AreSpaces before → AreSpaces after →
      Padded text (before ++ (text ++ after))

/-! ## Members by name -/

/-- Whether no member repeats a name that is known, and members whose names are not known have any
JSON texts as values. -/
structure AreMembers (known : List String) (members : List (String × List Char)) : Prop where
  once : ∀ name ∈ known, (members.map Prod.fst).count name ≤ 1
  others : ∀ member ∈ members, member.1 ∉ known → IsJson member.2

/-- A member that may be left out. -/
inductive MayHave {α : Type} (spells : α → List Char → Prop) (members : List (String × List Char))
    (name : String) : Option α → Prop where
  | absent : name ∉ members.map Prod.fst → MayHave spells members name none
  | given {a : α} {text : List Char} : (name, text) ∈ members → spells a text →
      MayHave spells members name (some a)

/-- A member that may be left out, and then has a default. -/
def MayOmit {α : Type} (spells : α → List Char → Prop) (members : List (String × List Char))
    (name : String) (standard a : α) : Prop :=
  ∃ given, MayHave spells members name given ∧ given.getD standard = a

/-- The text of something that may be null. -/
inductive SpellsOption {α : Type} (spells : α → List Char → Prop) :
    Option α → List Char → Prop where
  | null : SpellsOption spells none nullText
  | given {a : α} {text : List Char} : spells a text → SpellsOption spells (some a) text

/-- A member that may be left out and may be null, which comes to the same. -/
def MayHold {α : Type} (spells : α → List Char → Prop) (members : List (String × List Char))
    (name : String) (a : Option α) : Prop :=
  ∃ given, MayHave (SpellsOption spells) members name given ∧ given.join = a

/-! ## Known texts as JSON -/

/-- Every way to write a character is made of pieces. -/
theorem SpellsChar.exists_pieces {c : Char} {text : List Char} (spells : SpellsChar c text) :
    ∃ pieces : List (List Char), (∀ piece ∈ pieces, IsPiece piece) ∧ text = pieces.flatten := by
  cases spells with
  | plain mark slash control =>
    exact ⟨[[c]], by simpa using IsPiece.plain mark slash control, rfl⟩
  | letter known => exact ⟨[_], by simpa using IsPiece.letter known, by simp⟩
  | unit digits _ => exact ⟨[_], by simpa using IsPiece.unit digits, by simp⟩
  | @pair _ _ digits digits' high _ _ low _ _ =>
    refine ⟨['\\' :: 'u' :: digits, '\\' :: 'u' :: digits'], ?_, by simp⟩
    simp only [List.mem_cons, List.not_mem_nil, or_false, forall_eq_or_imp, forall_eq]
    exact ⟨.unit high, .unit low⟩

/-- A given string is a string. -/
theorem SpellsString.isString {s : String} {text : List Char} (spells : SpellsString s text) :
    IsString text := by
  obtain ⟨pieces, each, rfl⟩ := spells
  suffices whole : ∃ smaller : List (List Char), (∀ piece ∈ smaller, IsPiece piece) ∧
      pieces.flatten = smaller.flatten by
    obtain ⟨smaller, are, same⟩ := whole
    exact ⟨smaller, are, by rw [same]⟩
  generalize s.toList = content at each
  induction each with
  | nil => exact ⟨[], by simp, rfl⟩
  | cons first others ih =>
    obtain ⟨front, frontAre, rfl⟩ := first.exists_pieces
    obtain ⟨back, backAre, same⟩ := ih
    refine ⟨front ++ back, fun piece mem => ?_, by simp [same]⟩
    exact (List.mem_append.mp mem).elim (frontAre piece) (backAre piece)

/-- An object is a JSON text if the values of its members are. -/
theorem SpellsObject.isJson {members : List (String × List Char)} {text : List Char}
    (spells : SpellsObject members text) (values : ∀ member ∈ members, IsJson member.2) :
    IsJson text := by
  obtain ⟨parts, each, encloses⟩ := spells
  refine @IsJson.object (members.map Prod.snd) parts text ?_ encloses ?_
  · rw [List.forall₂_map_left_iff]
    exact each.imp fun member part ⟨name, named, member⟩ => ⟨name, named.isString, member⟩
  · intro value mem
    obtain ⟨member, inside, rfl⟩ := List.mem_map.mp mem
    exact values member inside

end PromptDiagram.Json
