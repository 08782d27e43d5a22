/-!
# Classes of characters

Blanks are the characters with the Unicode property White_Space, words are runs of ASCII
letters, digits and underscores. Trimming removes blanks from both ends of a text and nothing
else; the lemmas say that blanks at the end make no difference to it and that it takes nothing
away behind a character that is none.

Texts are written line by line and character by character: lines are joined by line feeds, and a
notation says for each character what is written for it.
-/

namespace PromptDiagram.Text

/-- The characters with the Unicode property White_Space. -/
def isBlank (c : Char) : Bool :=
  let n := c.toNat
  (9 ≤ n && n ≤ 13) || n == 0x20 || n == 0x85 || n == 0xA0 || n == 0x1680 ||
    (0x2000 ≤ n && n ≤ 0x200A) || n == 0x2028 || n == 0x2029 || n == 0x202F || n == 0x205F ||
    n == 0x3000

/-- An ASCII letter. -/
def isLetter (c : Char) : Bool :=
  ('a' ≤ c && c ≤ 'z') || ('A' ≤ c && c ≤ 'Z')

/-- An ASCII digit. -/
def isDigit (c : Char) : Bool :=
  '0' ≤ c && c ≤ '9'

/-- A character of a word: an ASCII letter or digit, or an underscore. -/
def isWord (c : Char) : Bool :=
  isLetter c || isDigit c || c == '_'

/-- The first character of a bare identifier. -/
def isWordStart (c : Char) : Bool :=
  isLetter c || c == '_'

/-- The lower-case form of an ASCII letter; every other character is kept. -/
def lower (c : Char) : Char :=
  if 'A' ≤ c ∧ c ≤ 'Z' then Char.ofNat (c.toNat + 32) else c

/-- Whether two texts agree up to the case of ASCII letters. -/
def sameIgnoringCase (left right : List Char) : Bool :=
  left.map lower == right.map lower

/-- A character that may stand in the value of a header: a tab, or any but the control characters
of ASCII. -/
def isHeaderChar (c : Char) : Bool :=
  c == '\t' || (0x20 ≤ c.toNat && c.toNat != 0x7F)

/-- Whether a text may be the value of a header. -/
def isHeaderValue (text : String) : Bool :=
  text.toList.all isHeaderChar

/-- A character of a header that is read as a text: a tab, or one of ASCII that is no control
character. -/
def isPlainChar (c : Char) : Bool :=
  c == '\t' || (0x20 ≤ c.toNat && c.toNat < 0x7F)

/-- Whether the value of a header is read as a text. -/
def isPlainValue (text : String) : Bool :=
  text.toList.all isPlainChar

/-- A text without the blanks at its end. -/
def trimEnd (text : List Char) : List Char :=
  (text.reverse.dropWhile isBlank).reverse

/-- A text without the blanks at its ends. -/
def trim (text : List Char) : List Char :=
  trimEnd (text.dropWhile isBlank)

/-- Whether a text has no character other than blanks. -/
def isBlankText (text : List Char) : Bool :=
  text.all isBlank

/-- A string without the blanks at its ends. -/
def trimmed (s : String) : String :=
  String.ofList (trim s.toList)

/-- Whether a string has no character other than blanks. -/
def isBlankString (s : String) : Bool :=
  isBlankText s.toList

/-- The number that an ASCII digit writes. -/
def digitValue (c : Char) : Nat :=
  c.toNat - '0'.toNat

/-- The value of a digit of a hexadecimal numeral, in either case. -/
def hexValue? (c : Char) : Option Nat :=
  if isDigit c then some (digitValue c)
  else if 'a' ≤ c ∧ c ≤ 'f' then some (c.toNat - 'a'.toNat + 10)
  else if 'A' ≤ c ∧ c ≤ 'F' then some (c.toNat - 'A'.toNat + 10)
  else none

/-- The lower-case hexadecimal numeral of a number, without leading zeros. -/
def hexadecimal (n : Nat) : List Char :=
  Nat.toDigits 16 n

/-- Blanks at the end of a text do not change what trimming leaves of it. -/
theorem trimEnd_append_blanks (text blanks : List Char) (h : ∀ c ∈ blanks, isBlank c = true) :
    trimEnd (text ++ blanks) = trimEnd text := by
  have dropped : ∀ (front back : List Char), (∀ c ∈ front, isBlank c = true) →
      (front ++ back).dropWhile isBlank = back.dropWhile isBlank := by
    intro front back
    induction front with
    | nil => intro _; rfl
    | cons c rest ih => intro hf; simp_all
  unfold trimEnd
  rw [List.reverse_append, dropped _ _ (by simpa using h)]

/-! ## Lines and escapes -/

/-- Lines joined by line feeds, without one at the end. -/
def joinLines (lines : List String) : String :=
  "\n".intercalate lines

/-- A text with each character replaced by what a notation writes for it. -/
def escapeWith (escape : Char → String) (text : String) : String :=
  String.ofList (text.toList.flatMap fun c => (escape c).toList)

/-- The characters of joined lines. -/
theorem toList_joinLines (lines : List String) :
    (joinLines lines).toList = ['\n'].intercalate (lines.map String.toList) := by
  simp [joinLines, String.toList_intercalate]

/-- The characters of an escaped text, one character's after the other's. -/
theorem toList_escapeWith (escape : Char → String) (text : String) :
    (escapeWith escape text).toList = text.toList.flatMap fun c => (escape c).toList := by
  simp [escapeWith]

end PromptDiagram.Text
