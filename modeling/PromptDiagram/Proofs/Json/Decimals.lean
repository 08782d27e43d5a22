import PromptDiagram.Json.Printer
import PromptDiagram.Proofs.Json.Numerals
import PromptDiagram.Proofs.Numeric.Bounds

/-!
# Floating-point numbers as texts

The text of a finite number in single precision is a number, with a point or an exponent, and it is
never too large to be read: its first digit is too near to the point for that.
-/

namespace PromptDiagram.Json

open Numeric Text

/-! ## Texts -/

/-- A positive decimal without exponent has digits on both sides of a point, and before it only
those that it must have. -/
theorem exists_positional {decimal : Decimal} (positive : 0 < decimal.digits) :
    ∃ whole fraction, decimal.positional ['.', '0'] = whole ++ '.' :: fraction ∧
      IsWhole whole ∧ AreDigits fraction ∧
      (whole.length : Int) ≤ max 1 (decimal.leading + 1) := by
  obtain ⟨nonempty, are⟩ := (isWhole_decimalDigits decimal.digits).1
  have front := head?_decimalDigits positive
  have zeros (n : Nat) : ∀ c ∈ List.replicate n '0', isDigit c = true := fun c mem => by
    rw [List.eq_of_mem_replicate mem]
    rfl
  simp only [Decimal.positional, Decimal.leading]
  generalize decimalDigits decimal.digits = digits at nonempty are front ⊢
  split_ifs with whole within
  case pos =>
    refine ⟨digits ++ List.replicate decimal.exponent.toNat '0', ['0'], rfl, ⟨⟨?_, ?_⟩, ?_⟩,
      by simp [AreDigits, isDigit], ?_⟩
    · simp [nonempty]
    · exact List.forall_mem_append.mpr ⟨are, zeros _⟩
    · rw [List.head?_append_of_ne_nil _ nonempty]
      exact fun zero => absurd zero front
    · simp only [List.length_append, List.length_replicate]
      omega
  case pos =>
    refine ⟨['0'], List.replicate ((-decimal.exponent).toNat - digits.length) '0' ++ digits,
      by simp, ?_, ⟨by simp [nonempty], ?_⟩, by simp⟩
    · exact ⟨by simp [AreDigits, isDigit], fun _ => rfl⟩
    · exact List.forall_mem_append.mpr ⟨zeros _, are⟩
  case neg =>
    refine ⟨digits.take (digits.length - (-decimal.exponent).toNat),
      digits.drop (digits.length - (-decimal.exponent).toNat), by simp, ⟨⟨?_, ?_⟩, ?_⟩,
      ⟨?_, ?_⟩, ?_⟩
    · simp only [ne_eq, List.take_eq_nil_iff, nonempty, or_false]
      omega
    · exact fun c mem => are c (List.mem_of_mem_take mem)
    · rw [List.head?_take, if_neg (by omega)]
      exact fun zero => absurd zero front
    · simp only [ne_eq, List.drop_eq_nil_iff]
      omega
    · exact fun c mem => are c (List.mem_of_mem_drop mem)
    · rw [List.length_take]
      omega

/-- A positive decimal without exponent is a number with a fraction. -/
theorem spellsNumeral_positional (negative : Bool) {decimal : Decimal}
    (positive : 0 < decimal.digits) :
    ∃ whole fraction, SpellsNumeral ⟨negative, whole, fraction, none⟩
        (signText negative ++ decimal.positional ['.', '0']) ∧
      AreDigits whole ∧ fraction ≠ [] ∧ (whole.length : Int) ≤ max 1 (decimal.leading + 1) := by
  obtain ⟨whole, fraction, same, is, are, short⟩ := exists_positional positive
  refine ⟨whole, fraction, ?_, is.1, are.1, short⟩
  rw [same, ← List.append_nil ('.' :: fraction)]
  exact .mk is (.digits are) .absent

/-- A decimal with exponent is a number with one digit before the point. -/
theorem spellsNumeral_scientific (negative : Bool) (decimal : Decimal) :
    ∃ first fraction, AreDigits [first] ∧ SpellsNumeral
      ⟨negative, [first], fraction,
        some (decide (decimal.leading < 0), decimalDigits decimal.leading.natAbs)⟩
      (signText negative ++ decimal.scientific) := by
  have are := (isWhole_decimalDigits decimal.digits).1
  have exponent : SpellsExponent
      (some (decide (decimal.leading < 0), decimalDigits decimal.leading.natAbs))
      ('e' :: (if decimal.leading < 0 then '-' else '+') ::
        decimalDigits decimal.leading.natAbs) := by
    have are := (isWhole_decimalDigits decimal.leading.natAbs).1
    by_cases below : decimal.leading < 0
    · simpa only [below, decide_true, if_true] using .minus (.inl rfl) are
    · simpa only [below, decide_false, if_false] using .plus (.inl rfl) are
  have whole {first : Char} (digit : AreDigits [first]) : IsWhole [first] :=
    ⟨digit, fun zero => by simpa using zero⟩
  simp only [Decimal.scientific]
  generalize decimalDigits decimal.digits = digits at are ⊢
  match digits, are with
  | [first], are => exact ⟨first, [], are, .mk (whole are) .absent exponent⟩
  | first :: second :: rest, are =>
    have digit : AreDigits [first] := ⟨by simp, by simpa using are.2 first List.mem_cons_self⟩
    have fraction : AreDigits (second :: rest) :=
      ⟨by simp, fun c mem => are.2 c (List.mem_cons_of_mem first mem)⟩
    refine ⟨first, second :: rest, digit, ?_⟩
    rw [List.append_assoc]
    exact .mk (whole digit) (.digits fraction) exponent

/-! ## Values -/

/-- Digits write a number that has no more of them. -/
theorem ofDigitChars_lt {digits : List Char} (are : ∀ c ∈ digits, isDigit c = true) (n : Nat) :
    Nat.ofDigitChars 10 digits n < (n + 1) * 10 ^ digits.length := by
  induction digits generalizing n with
  | nil => simp
  | cons c digits ih =>
    obtain ⟨digit, others⟩ := List.forall_mem_cons.mp are
    have next : 10 * n + digitValue c + 1 ≤ (n + 1) * 10 := by
      simp only [isDigit, Bool.and_eq_true, decide_eq_true_eq, Char.le_def, UInt32.le_iff_toNat_le]
        at digit
      have nine : c.toNat ≤ '9'.toNat := digit.2
      simp only [digitValue]
      simp at nine ⊢
      omega
    rw [Nat.ofDigitChars_cons]
    calc Nat.ofDigitChars 10 digits (10 * n + digitValue c)
        < (10 * n + digitValue c + 1) * 10 ^ digits.length := ih others _
      _ ≤ (n + 1) * 10 * 10 ^ digits.length := by gcongr
      _ = (n + 1) * 10 ^ (c :: digits).length := by rw [List.length_cons, pow_succ']; ring

/-- What is accumulated of digits is within bounds. -/
theorem accumulate_le {bound n : Nat} (within : n ≤ bound) (digits : List Char) :
    (accumulate bound n digits).1 ≤ bound := by
  induction digits generalizing n with
  | nil => exact within
  | cons c digits ih =>
    rw [accumulate]
    split
    case isTrue next => exact ih next
    case isFalse => exact within

/-- A number of 64 bits can be scaled by a power of ten that is not too large. -/
theorem exists_scaled {n : Nat} (within : n ≤ greatestNatural) {exponent : Int}
    (small : exponent ≤ 46) : ∃ value, scaled n exponent = some value := by
  rw [scaled]
  split
  case isFalse => exact ⟨_, rfl⟩
  case isTrue up =>
    have bits : n < 2 ^ 64 := Nat.lt_of_le_of_lt within (by decide)
    have bits' : tenTo exponent.toNat < 2 ^ 153 := calc
      tenTo exponent.toNat ≤ 10 ^ 46 := Nat.pow_le_pow_right (by decide) (by omega)
      _ < 2 ^ 153 := by decide
    have finite := Floating.isFinite_times bits bits' (by decide)
    exact ⟨_, by rw [scaleUp, if_pos (by omega), powerOfTen, if_pos finite]⟩

/-- A number is read if it has few digits before the point, and an exponent, if it has one, that is
not too large. -/
theorem exists_value (negative : Bool) {whole fraction : List Char}
    {exponent : Option (Bool × List Char)} (are : AreDigits whole) (short : whole.length ≤ 19)
    (scales : exponent = none ∧ fraction ≠ [] ∨
      ∃ below n, exponent = some (below, decimalDigits n) ∧ n ≤ 46) :
    ∃ number, Numeral.value ⟨negative, whole, fraction, exponent⟩ = .ok number := by
  have within : Nat.ofDigitChars 10 whole 0 ≤ greatestNatural := Nat.le_of_lt_succ <| calc
    Nat.ofDigitChars 10 whole 0 < (0 + 1) * 10 ^ whole.length := ofDigitChars_lt are.2 0
    _ ≤ (0 + 1) * 10 ^ 19 := by gcongr; decide
    _ ≤ greatestNatural + 1 := by decide
  have bound := accumulate_le within fraction
  simp only [Numeral.value, accumulate_digits within]
  generalize accumulate greatestNatural (Nat.ofDigitChars 10 whole 0) fraction = behind at bound ⊢
  have shift : (([] : List Char).length - (fraction.length - behind.2.length : Nat) : Int) ≤ 0 := by
    simp
  rcases scales with ⟨rfl, point⟩ | ⟨below, n, rfl, small⟩
  · obtain ⟨value, found⟩ := exists_scaled bound (shift.trans (by decide))
    have fractional : fraction.isEmpty = false := by simpa using point
    simp only [fractional, found]
    exact ⟨_, rfl⟩
  · have exponent : (if below then -(n : Int) else n) ≤ 46 := by split <;> omega
    obtain ⟨value, found⟩ := exists_scaled bound (add_le_add shift exponent)
    simp only [accumulate_decimalDigits (small.trans (by decide : 46 ≤ greatestExponent)), found]
    exact ⟨_, rfl⟩

/-! ## Numbers -/

/-- The text of a finite number in single precision is a number that can be read. -/
theorem exists_spellsNumeral_dataText {negative : Bool} {significand : Nat} {exponent : Int}
    (fits : (Floating.finite negative significand exponent).IsOf .single) :
    ∃ numeral number,
      SpellsNumeral numeral ((Floating.finite negative significand exponent).dataText .single) ∧
      numeral.value = .ok number := by
  obtain ⟨decimal, same⟩ : ∃ decimal, decimal =
      shortest Layout.single.format .toEven significand exponent := ⟨_, rfl⟩
  have sorted : decimal = ⟨0, 0⟩ ∨ 0 < significand ∧ 0 < decimal.digits ∧ -46 ≤ decimal.leading ∧
      decimal.leading ≤ 38 := by
    rw [same]
    exact shortest_single .toEven fits
  simp only [Floating.dataText, ← same]
  rcases sorted with rfl | ⟨significant, positive, low, high⟩
  · have zero : AreDigits ['0'] := by simp [AreDigits, isDigit]
    obtain ⟨number, value⟩ := exists_value negative zero (by decide)
      (.inl ⟨rfl, List.cons_ne_nil '0' []⟩)
    refine ⟨_, number, ?_, value⟩
    rw [if_pos (.inr (by decide))]
    exact .mk ⟨zero, fun _ => rfl⟩ (.digits zero) .absent
  split
  case isTrue near =>
    have upper : decimal.leading ≤ 12 := near.elim (fun zero => by omega) And.right
    obtain ⟨whole, fraction, spells, are, point, short⟩ :=
      spellsNumeral_positional negative positive
    obtain ⟨number, value⟩ := exists_value negative are (by omega) (.inl ⟨rfl, point⟩)
    exact ⟨_, number, spells, value⟩
  case isFalse =>
    obtain ⟨first, fraction, are, spells⟩ := spellsNumeral_scientific negative decimal
    obtain ⟨number, value⟩ := exists_value negative are (List.length_singleton.trans_le (by decide))
      (.inr ⟨decide (decimal.leading < 0), decimal.leading.natAbs, rfl, by omega⟩)
    exact ⟨_, number, spells, value⟩

end PromptDiagram.Json
