import PromptDiagram.Text.Utf8

/-!
# UTF-8 and back

The bytes of characters are read as these characters, whatever follows them. A character of several
bytes is read in two steps: its first byte says how many more there are and within which bounds the
next one lies, and each further byte adds six bits to the value. The bounds rule out values that
fewer bytes would do for, halves of surrogate pairs, and values beyond the last character, so none
of them rules out a byte of a character.
-/

namespace PromptDiagram.Text

/-! ## Bytes within a character -/

/-- The last byte of a character completes it. -/
theorem decodeFrom_last {low high value width byte : Nat} (bounds : low ≤ byte ∧ byte ≤ high)
    (small : byte < 256) (rest : List UInt8) :
    decodeFrom (some ⟨1, low, high, value, width⟩) (.ofNat byte :: rest) =
      .char (Char.ofNat (value * 64 + (byte - 0x80))) :: decodeFrom none rest := by
  have read : (UInt8.ofNat byte).toNat = byte := UInt8.toNat_ofNat_of_lt' small
  simp [decodeFrom, step, read, bounds]

/-- A byte before the last one of a character adds its bits, and leaves the others to be read. -/
theorem decodeFrom_further {needed low high value width byte : Nat}
    (bounds : low ≤ byte ∧ byte ≤ high) (small : byte < 256) (rest : List UInt8) :
    decodeFrom (some ⟨needed + 2, low, high, value, width⟩) (.ofNat byte :: rest) =
      decodeFrom (some ⟨needed + 1, 0x80, 0xBF, value * 64 + (byte - 0x80), width + 1⟩) rest := by
  have read : (UInt8.ofNat byte).toNat = byte := UInt8.toNat_ofNat_of_lt' small
  simp [decodeFrom, step, read, bounds]

/-- A byte that begins a character of several bytes leaves the others to be read. -/
theorem decodeFrom_first {byte : Nat} {begun : Begun} (begins : begun? byte = some begun)
    (several : 0x80 ≤ byte) (small : byte < 256) (rest : List UInt8) :
    decodeFrom none (.ofNat byte :: rest) = decodeFrom (some begun) rest := by
  have read : (UInt8.ofNat byte).toNat = byte := UInt8.toNat_ofNat_of_lt' small
  simp [decodeFrom, step, beginWith, read, begins, Nat.not_lt.mpr several]

/-! ## First bytes -/

/-- The first of two bytes. -/
theorem begun?_two {v : Nat} (least : 0x80 ≤ v) (greatest : v ≤ 0x7FF) :
    begun? (v / 64 + 0xC0) = some ⟨1, 0x80, 0xBF, v / 64, 1⟩ := by
  rw [begun?, if_pos (by omega), Nat.add_sub_cancel]

/-- The first of three bytes, whose bounds the second one is within. -/
theorem begun?_three {v : Nat} (least : 0x800 ≤ v) (greatest : v ≤ 0xFFFF)
    (whole : v < 0xD800 ∨ 0xDFFF < v) : ∃ low high,
    begun? (v / 4096 + 0xE0) = some ⟨2, low, high, v / 4096, 1⟩ ∧
      low ≤ v / 64 % 64 + 0x80 ∧ v / 64 % 64 + 0x80 ≤ high := by
  rw [begun?, if_neg (by omega)]
  by_cases lowest : v / 4096 = 0
  · refine ⟨0xA0, 0xBF, by rw [lowest]; rfl, ?_, ?_⟩ <;> omega
  · rw [if_neg (by omega)]
    by_cases surrogate : v / 4096 = 0xD
    · refine ⟨0x80, 0x9F, by rw [surrogate]; rfl, ?_, ?_⟩ <;> omega
    · refine ⟨0x80, 0xBF, ?_, ?_, ?_⟩
      · rw [if_neg (by omega), if_pos (by omega), Nat.add_sub_cancel]
      · omega
      · omega

/-- The first of four bytes, whose bounds the second one is within. -/
theorem begun?_four {v : Nat} (least : 0x10000 ≤ v) (greatest : v ≤ 0x10FFFF) : ∃ low high,
    begun? (v / 262144 + 0xF0) = some ⟨3, low, high, v / 262144, 1⟩ ∧
      low ≤ v / 4096 % 64 + 0x80 ∧ v / 4096 % 64 + 0x80 ≤ high := by
  rw [begun?, if_neg (by omega), if_neg (by omega), if_neg (by omega), if_neg (by omega)]
  by_cases lowest : v / 262144 = 0
  · refine ⟨0x90, 0xBF, by rw [lowest]; rfl, ?_, ?_⟩ <;> omega
  · rw [if_neg (by omega)]
    by_cases last : v / 262144 = 4
    · refine ⟨0x80, 0x8F, by rw [last]; rfl, ?_, ?_⟩ <;> omega
    · refine ⟨0x80, 0xBF, ?_, ?_, ?_⟩
      · rw [if_neg (by omega), if_pos (by omega), Nat.add_sub_cancel]
      · omega
      · omega

/-! ## Characters -/

/-- The value of a character is no half of a surrogate pair and has an end. -/
theorem toNat_bounds (c : Char) : c.toNat < 0xD800 ∨ 0xDFFF < c.toNat ∧ c.toNat ≤ 0x10FFFF := by
  have valid : c.toNat.isValidChar := c.valid
  unfold Nat.isValidChar at valid
  omega

/-- A character of one byte is read from it. -/
theorem decodeFrom_one {v : Nat} (greatest : v ≤ 0x7F) (rest : List UInt8) :
    decodeFrom none (.ofNat v :: rest) = .char (Char.ofNat v) :: decodeFrom none rest := by
  have read : (UInt8.ofNat v).toNat = v :=
    UInt8.toNat_ofNat_of_lt' (Nat.lt_of_le_of_lt greatest (by decide))
  simp [decodeFrom, step, beginWith, read, Nat.lt_succ_of_le greatest]

/-- A character of two bytes is read from them. -/
theorem decodeFrom_two {v : Nat} (least : 0x80 ≤ v) (greatest : v ≤ 0x7FF) (rest : List UInt8) :
    decodeFrom none (.ofNat (v / 64 % 32 + 0xC0) :: .ofNat (v % 64 + 0x80) :: rest) =
      .char (Char.ofNat v) :: decodeFrom none rest := by
  have value : v / 64 * 64 + (v % 64 + 0x80 - 0x80) = v := by omega
  rw [Nat.mod_eq_of_lt (by omega : v / 64 < 32),
    decodeFrom_first (begun?_two least greatest) (by omega) (by omega),
    decodeFrom_last (by omega) (by omega), value]

/-- A character of three bytes is read from them. -/
theorem decodeFrom_three {v : Nat} (least : 0x800 ≤ v) (greatest : v ≤ 0xFFFF)
    (whole : v < 0xD800 ∨ 0xDFFF < v) (rest : List UInt8) :
    decodeFrom none (.ofNat (v / 4096 % 16 + 0xE0) :: .ofNat (v / 64 % 64 + 0x80) ::
      .ofNat (v % 64 + 0x80) :: rest) = .char (Char.ofNat v) :: decodeFrom none rest := by
  obtain ⟨low, high, begins, bounds⟩ := begun?_three least greatest whole
  have value : (v / 4096 * 64 + (v / 64 % 64 + 0x80 - 0x80)) * 64 + (v % 64 + 0x80 - 0x80) = v := by
    omega
  rw [Nat.mod_eq_of_lt (by omega : v / 4096 < 16),
    decodeFrom_first begins (by omega) (by omega), decodeFrom_further bounds (by omega),
    decodeFrom_last (by omega) (by omega), value]

/-- A character of four bytes is read from them. -/
theorem decodeFrom_four {v : Nat} (least : 0x10000 ≤ v) (greatest : v ≤ 0x10FFFF)
    (rest : List UInt8) :
    decodeFrom none (.ofNat (v / 262144 % 8 + 0xF0) :: .ofNat (v / 4096 % 64 + 0x80) ::
      .ofNat (v / 64 % 64 + 0x80) :: .ofNat (v % 64 + 0x80) :: rest) =
        .char (Char.ofNat v) :: decodeFrom none rest := by
  obtain ⟨low, high, begins, bounds⟩ := begun?_four least greatest
  have value : ((v / 262144 * 64 + (v / 4096 % 64 + 0x80 - 0x80)) * 64 +
      (v / 64 % 64 + 0x80 - 0x80)) * 64 + (v % 64 + 0x80 - 0x80) = v := by
    omega
  rw [Nat.mod_eq_of_lt (by omega : v / 262144 < 8),
    decodeFrom_first begins (by omega) (by omega), decodeFrom_further bounds (by omega),
    decodeFrom_further (by omega) (by omega), decodeFrom_last (by omega) (by omega), value]

/-- The bytes of a character are read as the character, whatever follows them. -/
theorem decodeFrom_utf8EncodeChar (c : Char) (rest : List UInt8) :
    decodeFrom none (String.utf8EncodeChar c ++ rest) = .char c :: decodeFrom none rest := by
  have whole := toNat_bounds c
  have same := Char.ofNat_toNat c
  unfold String.utf8EncodeChar
  change decodeFrom none ((if c.toNat ≤ 0x7F then _ else if c.toNat ≤ 0x7FF then _ else
    if c.toNat ≤ 0xFFFF then _ else _) ++ rest) = _
  split
  case isTrue one => exact (decodeFrom_one one rest).trans (by rw [same])
  case isFalse one =>
    split
    case isTrue two => exact (decodeFrom_two (by omega) two rest).trans (by rw [same])
    case isFalse two =>
      split
      case isTrue three =>
        exact (decodeFrom_three (by omega) three (by omega) rest).trans (by rw [same])
      case isFalse three =>
        exact (decodeFrom_four (v := c.toNat) (by omega) (by omega) rest).trans (by rw [same])

/-- The bytes of characters are read as these characters. -/
theorem decode_encode (text : List Char) : decode (encode text) = symbols text := by
  unfold decode
  induction text with
  | nil => rfl
  | cons c text ih =>
    rw [encode, List.flatMap_cons, decodeFrom_utf8EncodeChar, ← encode, ih, symbols_cons]

end PromptDiagram.Text
