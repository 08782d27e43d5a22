import Mathlib.Algebra.Order.Field.Power
import Mathlib.Data.Rat.Floor
import Mathlib.Tactic.Linarith
import Mathlib.Tactic.NormNum
import Mathlib.Tactic.Positivity
import Mathlib.Tactic.Qify
import PromptDiagram.Numeric.Shortest

/-!
# Bounds of floating-point numbers

A rounded ratio belongs to the format that it is rounded to, and how large it can be is seen from
the bits of its numerator. How large a shortest decimal can be is seen from the value that it stands
for: it is at most half a unit of the last place away from it.
-/

namespace PromptDiagram.Numeric

/-- Whether a value belongs to a format: if it is finite, its significand has no more bits, and its
exponent is within bounds. -/
def Floating.IsOf (format : Format) (value : Floating) : Prop :=
  ∀ negative significand exponent, value = .finite negative significand exponent →
    significand < twoTo format.precision ∧ format.least ≤ exponent ∧ exponent ≤ format.greatest

/-- A power with an integral exponent is a quotient of powers. -/
theorem zpow_eq_div (base : Nat) (exponent : Int) :
    (base : ℚ) ^ exponent = (base ^ exponent.toNat : ℕ) / (base ^ (-exponent).toNat : ℕ) := by
  obtain ⟨n, rfl | rfl⟩ := exponent.eq_nat_or_neg <;> simp

/-- Products with powers of a base compare as what the powers come to. -/
theorem mul_zpow_le_iff {base : Nat} (positive : 0 < base) (a b : Nat) (exponent : Int) :
    (a : ℚ) * (base : ℚ) ^ exponent ≤ b ↔
      a * base ^ exponent.toNat ≤ b * base ^ (-exponent).toNat := by
  have bottom : (0 : ℚ) < (base ^ (-exponent).toNat : ℕ) := by positivity
  rw [zpow_eq_div, ← mul_div_assoc, div_le_iff₀ bottom]
  exact_mod_cast Iff.rfl

/-- Products with powers of two bases compare as what the powers come to. -/
theorem mul_zpow_le_mul_zpow_iff {base base' : Nat} (positive : 0 < base) (positive' : 0 < base')
    (a b : ℚ) (m n : Int) :
    a * (base : ℚ) ^ m ≤ b * (base' : ℚ) ^ n ↔
      a * (base ^ m.toNat * base' ^ (-n).toNat : ℕ) ≤
        b * (base' ^ n.toNat * base ^ (-m).toNat : ℕ) := by
  have bottom : (0 : ℚ) < (base ^ (-m).toNat : ℕ) := by positivity
  have bottom' : (0 : ℚ) < (base' ^ (-n).toNat : ℕ) := by positivity
  rw [zpow_eq_div, zpow_eq_div, ← mul_div_assoc, ← mul_div_assoc, div_le_div_iff₀ bottom bottom']
  push_cast
  simp only [mul_assoc]

/-- A power of two as a rational number. -/
theorem cast_twoTo (exponent : Nat) : (twoTo exponent : ℚ) = 2 ^ exponent := by
  exact_mod_cast rfl

/-! ## Rounded ratios -/

namespace Floating

/-- A ratio does not reach a greater power of two than its numerator. -/
theorem binaryMagnitude_le (numerator denominator : Nat) :
    binaryMagnitude numerator denominator ≤ numerator.log2 := by
  simp only [binaryMagnitude]
  split <;> omega

/-- A positive ratio does not reach the power of two behind its magnitude. -/
theorem lt_binaryMagnitude {numerator denominator : Nat} (positive : denominator ≠ 0) :
    (numerator : ℚ) < denominator * 2 ^ (binaryMagnitude numerator denominator + 1) := by
  simp only [binaryMagnitude]
  split
  case isTrue reached =>
    have top : (numerator : ℚ) < 2 ^ (numerator.log2 + 1) := by exact_mod_cast Nat.lt_log2_self
    have bottom : (2 : ℚ) ^ denominator.log2 ≤ denominator := by
      exact_mod_cast Nat.log2_self_le positive
    calc (numerator : ℚ) < 2 ^ (numerator.log2 + 1) := top
      _ = 2 ^ denominator.log2 * 2 ^ ((numerator.log2 : Int) - denominator.log2 + 1) := by
        rw [← zpow_natCast, ← zpow_natCast, ← zpow_add₀ two_ne_zero]
        congr 1
        push_cast
        ring
      _ ≤ denominator * 2 ^ ((numerator.log2 : Int) - denominator.log2 + 1) := by gcongr
  case isFalse missed =>
    rw [sub_add_cancel]
    exact lt_of_not_ge ((mul_zpow_le_iff two_pos denominator numerator _).not.mpr missed)

/-- A quotient is rounded up by one at most. -/
theorem roundQuotient_le (numerator denominator : Nat) :
    roundQuotient numerator denominator ≤ numerator / denominator + 1 := by
  simp only [roundQuotient]
  split_ifs <;> omega

/-- The exponent that a ratio has before its significand is rounded. -/
def exponentOf (format : Format) (numerator denominator : Nat) : Int :=
  max format.least (binaryMagnitude numerator denominator - (format.precision - 1))

/-- A rounded significand has one bit more than the format at most, and then it is a power of
two. -/
theorem roundQuotient_le_twoTo (format : Format) (numerator : Nat) {denominator : Nat}
    (positive : denominator ≠ 0) :
    let exponent := exponentOf format numerator denominator
    roundQuotient (numerator * twoTo (-exponent).toNat) (denominator * twoTo exponent.toNat) ≤
      twoTo format.precision := by
  intro exponent
  refine (roundQuotient_le _ _).trans (Nat.succ_le_of_lt ?_)
  have bottom : 0 < denominator * twoTo exponent.toNat :=
    Nat.mul_pos (Nat.pos_of_ne_zero positive) (Nat.two_pow_pos _)
  rw [Nat.div_lt_iff_lt_mul bottom]
  have enough : binaryMagnitude numerator denominator + 1 ≤ exponent + format.precision := by
    simp only [exponent, exponentOf]
    omega
  have bound : (numerator : ℚ) < denominator * twoTo format.precision * 2 ^ exponent := calc
    (numerator : ℚ) < denominator * 2 ^ (binaryMagnitude numerator denominator + 1) :=
      lt_binaryMagnitude positive
    _ ≤ denominator * 2 ^ (exponent + format.precision) := by gcongr; norm_num
    _ = denominator * twoTo format.precision * 2 ^ exponent := by
      rw [zpow_add₀ two_ne_zero, zpow_natCast, cast_twoTo]
      ring
  have products := (mul_zpow_le_iff two_pos (denominator * twoTo format.precision) numerator
    exponent).not.mp (by push_cast at bound ⊢; exact not_le.mpr bound)
  simp only [not_le] at products
  calc numerator * twoTo (-exponent).toNat
      < denominator * twoTo format.precision * twoTo exponent.toNat := products
    _ = twoTo format.precision * (denominator * twoTo exponent.toNat) := by ring

/-- A ratio is rounded to a value of the format, unless its exponent is too large. -/
theorem ofRatio_cases (format : Format) (negative : Bool) {numerator denominator : Nat}
    (nonzero : numerator ≠ 0) (positive : denominator ≠ 0) :
    (ofRatio format negative numerator denominator = .infinite negative ∧
      format.greatest ≤ exponentOf format numerator denominator) ∨
    ∃ significand exponent,
      ofRatio format negative numerator denominator = .finite negative significand exponent ∧
      significand < twoTo format.precision ∧
      exponentOf format numerator denominator ≤ exponent ∧
      exponent ≤ exponentOf format numerator denominator + 1 ∧ exponent ≤ format.greatest := by
  have bound := roundQuotient_le_twoTo format numerator positive
  simp only [ofRatio, if_neg nonzero, ← exponentOf.eq_def] at bound ⊢
  generalize roundQuotient _ _ = significand at bound ⊢
  generalize exponentOf format numerator denominator = exponent
  have half : twoTo format.precision / 2 < twoTo format.precision :=
    Nat.div_lt_self (Nat.two_pow_pos _) (by decide)
  by_cases carried : significand = twoTo format.precision
  · simp only [carried, beq_self_eq_true, if_true]
    split
    case isTrue beyond => exact .inl ⟨rfl, by omega⟩
    case isFalse within => exact .inr ⟨_, _, rfl, half, by omega, le_refl _, by omega⟩
  · simp only [beq_false_of_ne carried, Bool.false_eq_true, if_false]
    split
    case isTrue beyond => exact .inl ⟨rfl, by omega⟩
    case isFalse within =>
      exact .inr ⟨_, _, rfl, lt_of_le_of_ne bound carried, le_refl _, by omega, by omega⟩

/-- A rounded ratio belongs to its format. -/
theorem isOf_ofRatio {format : Format} (holdsZero : format.least ≤ format.greatest)
    (negative : Bool) (numerator : Nat) {denominator : Nat} (positive : denominator ≠ 0) :
    (ofRatio format negative numerator denominator).IsOf format := by
  intro sign significand exponent same
  by_cases zero : numerator = 0
  · rw [ofRatio, if_pos zero] at same
    obtain ⟨-, rfl, rfl⟩ := finite.inj same
    exact ⟨Nat.two_pow_pos _, le_refl _, holdsZero⟩
  · rcases ofRatio_cases format negative zero positive with
      ⟨infinite, -⟩ | ⟨_, _, rounded, bits, low, -, high⟩
    · simp [infinite] at same
    · obtain ⟨-, rfl, rfl⟩ := finite.inj (rounded.symm.trans same)
      exact ⟨bits, (le_max_left _ _).trans low, high⟩

/-- A ratio is finite in double precision if its numerator is not too large, and its significand
is shifted by no more than the bits that the numerator has. -/
theorem ofRatio_double (negative : Bool) {numerator denominator bits : Nat}
    (small : numerator < 2 ^ bits) (few : bits ≤ 1023) (positive : denominator ≠ 0) :
    ∃ significand exponent,
      ofRatio .double negative numerator denominator = .finite negative significand exponent ∧
      significand < 2 ^ 53 ∧ exponent ≤ bits := by
  by_cases zero : numerator = 0
  · exact ⟨0, -1074, by simp only [ofRatio, if_pos zero]; rfl, by decide, by omega⟩
  · have magnitude := binaryMagnitude_le numerator denominator
    have known : numerator.log2 < bits := (Nat.log2_lt zero).mpr small
    have near : exponentOf .double numerator denominator < max (-1073 : Int) (bits - 52) := by
      simp only [exponentOf, Format.double]
      omega
    rcases ofRatio_cases .double negative zero positive with
      ⟨-, beyond⟩ | ⟨significand, exponent, rounded, fits, -, high, -⟩
    · simp only [Format.double] at beyond near
      omega
    · exact ⟨significand, exponent, rounded, fits, by omega⟩

/-- A natural number in double precision is a ratio whose numerator has not many more bits than the
number. -/
theorem ratio?_ofNat {n bits : Nat} (small : n < 2 ^ bits) (few : bits ≤ 1023) :
    ∃ numerator denominator, (ofNat .double n).ratio? = some (numerator, denominator) ∧
      numerator < 2 ^ (53 + bits) ∧ denominator ≠ 0 := by
  obtain ⟨significand, exponent, rounded, fits, high⟩ :=
    ofRatio_double false small few one_ne_zero
  refine ⟨significand * twoTo exponent.toNat, twoTo (-exponent).toNat,
    by rw [ofNat, rounded, ratio?], ?_, (Nat.two_pow_pos _).ne'⟩
  have shift : twoTo exponent.toNat ≤ 2 ^ bits := Nat.pow_le_pow_right two_pos (by omega)
  calc significand * twoTo exponent.toNat ≤ significand * 2 ^ bits := by gcongr
    _ < 2 ^ 53 * 2 ^ bits := by gcongr
    _ = 2 ^ (53 + bits) := (pow_add 2 53 bits).symm

/-- The product of two natural numbers in double precision is finite if they are not too large. -/
theorem isFinite_times {m n bits bits' : Nat} (small : m < 2 ^ bits) (small' : n < 2 ^ bits')
    (few : 53 + bits + (53 + bits') ≤ 1023) :
    ((ofNat .double m).times .double (ofNat .double n)).isFinite = true := by
  obtain ⟨a, b, left, fits, nonzero⟩ := ratio?_ofNat small (by omega)
  obtain ⟨c, d, right, fits', nonzero'⟩ := ratio?_ofNat small' (by omega)
  have product : a * c < 2 ^ (53 + bits + (53 + bits')) := by
    rw [pow_add 2 (53 + bits)]
    exact Nat.mul_lt_mul'' fits fits'
  rw [times, left, right]
  obtain ⟨_, _, rounded, -, -⟩ := ofRatio_double
    ((ofNat .double m).isNegative != (ofNat .double n).isNegative) product few
    (mul_ne_zero nonzero nonzero')
  exact congrArg isFinite rounded

end Floating

/-! ## Shortest decimals -/

/-- What a decimal stands for. -/
def Decimal.value (decimal : Decimal) : ℚ :=
  decimal.digits * 10 ^ decimal.exponent

/-- Whether a number is at most half a unit of the last place away from a binary one. -/
def IsNear (significand : Nat) (exponent : Int) (number : ℚ) : Prop :=
  (2 * significand - 1) * 2 ^ exponent ≤ 2 * number ∧
    2 * number ≤ (2 * significand + 1) * 2 ^ exponent

/-- The neighbour that is taken on a grid is near. -/
theorem isNear_neighbour? {format : Format} {tie : Tie} {significand digits : Nat}
    {exponent grid : Int}
    (found : neighbour? format tie significand exponent grid = some digits) :
    IsNear significand exponent (digits * 10 ^ grid) := by
  unfold neighbour? at found
  extract_lets even scale step value at found
  split at found
  rename_i _ low high interval
  extract_lets fits at found
  have taken : fits digits = true := by
    split_ifs at found <;> rwa [← Option.some.inj found]
  obtain ⟨above, below⟩ : low * scale ≤ digits * step ∧ digits * step ≤ high * scale := by
    simp only [fits, Bool.and_eq_true, Bool.or_eq_true, decide_eq_true_eq, beq_iff_eq] at taken
    exact ⟨taken.1.elim le_of_lt fun same => same.2.le, taken.2.elim le_of_lt fun same => same.2.le⟩
  obtain ⟨least, rfl⟩ : 4 * significand ≤ low + 2 ∧ 4 * significand + 2 = high := by
    obtain ⟨rfl, rfl⟩ := Prod.mk.inj interval
    exact ⟨by split_ifs <;> omega, rfl⟩
  have lower := mul_zpow_le_mul_zpow_iff two_pos (by decide : 0 < 10) (2 * significand - 1)
    (2 * digits) exponent grid
  have upper := mul_zpow_le_mul_zpow_iff (by decide : 0 < 10) two_pos (2 * digits)
    (2 * significand + 1) grid exponent
  have scaled : scale = 2 ^ exponent.toNat * 10 ^ (-grid).toNat := rfl
  have stepped : step = 4 * (10 ^ grid.toNat * 2 ^ (-exponent).toNat) :=
    congrArg (4 * ·) (Nat.mul_comm _ _)
  generalize 10 ^ grid.toNat * 2 ^ (-exponent).toNat = quarter at lower upper stepped
  rw [stepped] at above below
  rw [← scaled] at lower upper
  qify at above below least
  have bound := mul_le_mul_of_nonneg_right least scale.cast_nonneg
  rw [IsNear, ← mul_assoc]
  exact ⟨lower.mpr (by linarith), upper.mpr (by linarith)⟩

/-! ## Digits -/

/-- Zeros at the end of a decimal's digits only shift it. -/
theorem Decimal.value_strip (fuel : Nat) (decimal : Decimal) :
    (decimal.strip fuel).value = decimal.value := by
  induction fuel generalizing decimal with
  | zero => rfl
  | succ fuel ih =>
    rw [strip]
    split
    case isTrue ends =>
      have tens : decimal.digits = decimal.digits / 10 * 10 := by omega
      rw [ih, value, value, zpow_add_one₀ (by norm_num)]
      conv_rhs => rw [tens]
      push_cast
      ring
    case isFalse => rfl

/-- A shortest decimal is zero or near to the value that it stands for. -/
theorem shortest_cases (format : Format) (tie : Tie) (significand : Nat) (exponent : Int) :
    shortest format tie significand exponent = ⟨0, 0⟩ ∨
      0 < significand ∧
        IsNear significand exponent (shortest format tie significand exponent).value := by
  have search (magnitude : Int) (fuel count : Nat) :
      shortestFrom format tie significand exponent magnitude fuel count = ⟨0, 0⟩ ∨
        IsNear significand exponent
          (shortestFrom format tie significand exponent magnitude fuel count).value := by
    induction fuel generalizing count with
    | zero => exact .inl rfl
    | succ fuel ih =>
      rw [shortestFrom]
      split
      case h_1 digits found =>
        rw [Decimal.value_strip]
        exact .inr (isNear_neighbour? found)
      case h_2 => exact ih (count + 1)
  rw [shortest]
  split
  case isTrue => exact .inl rfl
  case isFalse nonzero =>
    exact (search _ 17 1).imp_right (.intro (Nat.pos_of_ne_zero nonzero))

/-- A decimal lies between two powers of ten. -/
theorem Decimal.leading_spec {decimal : Decimal} (positive : 0 < decimal.digits) :
    (10 : ℚ) ^ decimal.leading ≤ decimal.value ∧
      decimal.value < (10 : ℚ) ^ (decimal.leading + 1) := by
  obtain ⟨more, length⟩ : ∃ more, (decimalDigits decimal.digits).length = more + 1 :=
    Nat.exists_eq_succ_of_ne_zero Nat.length_toDigits_pos.ne'
  have below : decimal.digits < 10 ^ (more + 1) :=
    (Nat.length_toDigits_le_iff (by decide) (Nat.succ_pos more)).mp length.le
  have above : 10 ^ more ≤ decimal.digits := by
    cases more with
    | zero => exact positive
    | succ more =>
      have long : ¬ (decimalDigits decimal.digits).length ≤ more + 1 := by omega
      exact not_lt.mp
        ((Nat.length_toDigits_le_iff (by decide) (Nat.succ_pos more)).not.mp long)
  have split (n : Nat) :
      (10 : ℚ) ^ ((n : Int) + decimal.exponent) = 10 ^ n * 10 ^ decimal.exponent := by
    rw [zpow_add₀ (by norm_num), zpow_natCast]
  have leading : decimal.leading = (more : Int) + decimal.exponent := by
    rw [leading, length]
    push_cast
    ring
  have behind : decimal.leading + 1 = ((more + 1 : ℕ) : Int) + decimal.exponent := by
    rw [leading]
    push_cast
    ring
  rw [behind, leading, split, split, value]
  constructor
  · gcongr
    exact_mod_cast above
  · gcongr
    exact_mod_cast below

/-- The shortest decimal of a value in single precision is zero or has its first digit within 46
places of the point. -/
theorem shortest_single (tie : Tie) {negative : Bool} {significand : Nat} {exponent : Int}
    (fits : (Floating.finite negative significand exponent).IsOf .single) :
    shortest .single tie significand exponent = ⟨0, 0⟩ ∨
      0 < significand ∧ 0 < (shortest .single tie significand exponent).digits ∧
      -46 ≤ (shortest .single tie significand exponent).leading ∧
      (shortest .single tie significand exponent).leading ≤ 38 := by
  obtain ⟨bits, low, high⟩ := fits _ _ _ rfl
  refine (shortest_cases .single tie significand exponent).imp_right ?_
  rintro ⟨significant, above, below⟩
  generalize shortest .single tie significand exponent = decimal at above below ⊢
  have least : (10 : ℚ) ^ (-46 : Int) < decimal.value := by
    have one : (1 : ℚ) ≤ significand := by exact_mod_cast significant
    have power : (2 : ℚ) ^ (-149 : Int) ≤ 2 ^ exponent := zpow_le_zpow_right₀ one_le_two low
    have twice : (2 : ℚ) ^ (-149 : Int) ≤ 2 * decimal.value := calc
      (2 : ℚ) ^ (-149 : Int) ≤ 1 * 2 ^ exponent := by rwa [one_mul]
      _ ≤ (2 * significand - 1) * 2 ^ exponent := by gcongr; linarith
      _ ≤ 2 * decimal.value := above
    norm_num at twice ⊢
    linarith
  have greatest : decimal.value < (10 : ℚ) ^ (39 : Int) := by
    have most : (significand : ℚ) ≤ 2 ^ 24 := by exact_mod_cast bits.le
    have power : (2 : ℚ) ^ exponent ≤ 2 ^ (104 : Int) := zpow_le_zpow_right₀ one_le_two high
    have twice : 2 * decimal.value ≤ (2 * 2 ^ 24 + 1) * 2 ^ (104 : Int) := calc
      2 * decimal.value ≤ (2 * significand + 1) * 2 ^ exponent := below
      _ ≤ (2 * 2 ^ 24 + 1) * 2 ^ (104 : Int) := by gcongr
    norm_num at twice ⊢
    linarith
  have positive : 0 < decimal.digits := by
    refine Nat.pos_of_ne_zero fun zero => ?_
    simp only [Decimal.value, zero] at least
    norm_num at least
  obtain ⟨reached, missed⟩ := Decimal.leading_spec positive
  have ten : (1 : ℚ) < 10 := by norm_num
  have after := (zpow_lt_zpow_iff_right₀ ten).mp (least.trans missed)
  have before := (zpow_lt_zpow_iff_right₀ ten).mp (reached.trans_lt greatest)
  exact ⟨significant, positive, by omega, by omega⟩

/-! ## Bounds of values -/

namespace Floating

/-- The number that a finite value stands for. -/
def rational? : Floating → Option ℚ
  | .finite negative significand exponent =>
    some ((if negative then -1 else 1) * (significand * 2 ^ exponent))
  | _ => none

/-- A value lies within bounds exactly if the number that it stands for does. -/
theorem isWithin_iff {bound : Nat} {value : Floating} :
    value.isWithin bound = true ↔ ∃ number, value.rational? = some number ∧
      0 ≤ number ∧ number ≤ bound := by
  cases value with
  | infinite negative => simp [isWithin, rational?]
  | undefined => simp [isWithin, rational?]
  | finite negative significand exponent =>
    simp only [isWithin, rational?, Option.some.injEq, exists_eq_left', Bool.or_eq_true,
      beq_iff_eq, Bool.and_eq_true, Bool.not_eq_true', decide_eq_true_eq]
    rcases Nat.eq_zero_or_pos significand with rfl | positive
    · simp
    · have valued : (0 : ℚ) < significand * 2 ^ exponent := by positivity
      cases negative with
      | true =>
        have below : ¬(0 : ℚ) ≤ -1 * (significand * 2 ^ exponent) := by linarith
        simp only [if_true, Bool.true_eq_false, false_and, or_false, below, iff_false]
        omega
      | false =>
        have products := mul_zpow_le_iff two_pos significand bound exponent
        simp only [Bool.false_eq_true, if_false, one_mul, true_and, valued.le]
        rw [or_iff_right (by omega)]
        exact products.symm

end Floating

end PromptDiagram.Numeric
