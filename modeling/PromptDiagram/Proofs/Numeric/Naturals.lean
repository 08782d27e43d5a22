import Mathlib.Data.Nat.Digits.Defs
import Mathlib.Tactic.Ring
import PromptDiagram.Numeric.Reading
import PromptDiagram.Proofs.Json.Grammar

/-!
# Natural numbers as texts

A natural number is written in decimal digits, with any zeros in front and perhaps with a plus sign.
Reading goes digit by digit and gives up as soon as the number exceeds the limit. What has been read
only grows with each digit, so nothing is given up that would have come out within the limit, and
what comes out is the number that the digits write and not that number in a smaller range.
-/

namespace PromptDiagram.Numeric

open Json Text

/-- The number that decimal digits write, the last one of them being worth the least. -/
def decimalValue (digits : List Char) : Nat :=
  Nat.ofDigits 10 (digits.reverse.map digitValue)

/-- The texts of a natural number. -/
inductive SpellsNatural : Nat → List Char → Prop where
  | unsigned {digits : List Char} : AreDigits digits → SpellsNatural (decimalValue digits) digits
  | plus {digits : List Char} : AreDigits digits →
      SpellsNatural (decimalValue digits) ('+' :: digits)

/-! ## Digits -/

/-- A digit is worth more the more digits stand behind it. -/
theorem decimalValue_cons (c : Char) (digits : List Char) :
    decimalValue (c :: digits) = digitValue c * 10 ^ digits.length + decimalValue digits := by
  rw [decimalValue, List.reverse_cons, List.map_append, Nat.ofDigits_append, decimalValue]
  simp only [List.map_cons, List.map_nil, Nat.ofDigits_singleton, List.length_map,
    List.length_reverse]
  ring

/-- Reading digits behind a number comes to the number with the digits behind it, if that is within
the limit. -/
theorem digitsWithin?_eq_some_iff {limit n m : Nat} {digits : List Char} (within : n ≤ limit) :
    digitsWithin? limit n digits = some m ↔ (∀ c ∈ digits, isDigit c = true) ∧
      n * 10 ^ digits.length + decimalValue digits = m ∧ m ≤ limit := by
  induction digits generalizing n with
  | nil =>
    simp only [digitsWithin?, Option.some.injEq, List.not_mem_nil, false_implies, implies_true,
      true_and, List.length_nil, pow_zero, mul_one, decimalValue, List.reverse_nil, List.map_nil,
      Nat.ofDigits_nil, add_zero]
    omega
  | cons c digits ih =>
    have carried : n * 10 ^ (c :: digits).length + decimalValue (c :: digits) =
        (10 * n + digitValue c) * 10 ^ digits.length + decimalValue digits := by
      rw [decimalValue_cons, List.length_cons]
      ring
    rw [carried, digitsWithin?, List.forall_mem_cons]
    by_cases digit : isDigit c = true
    · by_cases next : 10 * n + digitValue c ≤ limit
      · rw [if_pos (by simp [digit, next]), ih next, and_assoc, and_iff_right digit]
      · -- What has been read never exceeds what comes out, so what is given up here is lost anyway.
        have grows : 10 * n + digitValue c ≤
            (10 * n + digitValue c) * 10 ^ digits.length + decimalValue digits :=
          Nat.le_add_right_of_le (Nat.le_mul_of_pos_right _ (Nat.pow_pos (by decide)))
        rw [if_neg (by simp [next])]
        constructor
        · intro impossible
          cases impossible
        · rintro ⟨-, rfl, least⟩
          omega
    · simp [digit]

/-! ## Texts -/

/-- A plus sign is no digit, so digits are left as they are where a plus sign is dropped. -/
theorem dropPlus_of_areDigits {digits : List Char} (are : AreDigits digits) :
    dropPlus digits = digits := by
  unfold dropPlus
  split
  · rename_i rest
    have digit := are.2 '+' List.mem_cons_self
    cases digit
  · rfl

/-- What writes a number is digits, once a plus sign is dropped. -/
theorem spellsNatural_iff {n : Nat} {text : List Char} :
    SpellsNatural n text ↔ AreDigits (dropPlus text) ∧ decimalValue (dropPlus text) = n := by
  constructor
  · intro spells
    cases spells with
    | unsigned are =>
      rw [dropPlus_of_areDigits are]
      exact ⟨are, rfl⟩
    | plus are => exact ⟨are, rfl⟩
  · unfold dropPlus
    split
    · rintro ⟨are, rfl⟩
      exact .plus are
    · rintro ⟨are, rfl⟩
      exact .unsigned are

/-- A text is read as the natural number that it writes, if that is within the limit. -/
theorem natural?_eq_some_iff {limit n : Nat} {text : List Char} :
    natural? limit text = some n ↔ SpellsNatural n text ∧ n ≤ limit := by
  rw [spellsNatural_iff, natural?]
  split
  case h_1 empty => simp [empty, AreDigits]
  case h_2 nonempty =>
    rw [digitsWithin?_eq_some_iff (Nat.zero_le limit), Nat.zero_mul, Nat.zero_add, AreDigits,
      and_assoc, and_assoc]
    exact (and_iff_right nonempty).symm

end PromptDiagram.Numeric
