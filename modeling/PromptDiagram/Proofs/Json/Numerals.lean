import PromptDiagram.Proofs.Json.Grammar

/-!
# Numbers

A number is read part by part, provided that nothing follows that a number could go on with. The
value of the digits of a natural number of 64 bits is that number.
-/

namespace PromptDiagram.Json

open Numeric Text

/-- A character that a number could go on with. -/
def isNumeric (c : Char) : Bool :=
  isDigit c || c == '.' || c == 'e' || c == 'E'

/-- Symbols that do not begin with a character that a number could go on with. -/
def EndsNumber (rest : List Symbol) : Prop :=
  ∀ c, rest.head? = some (.char c) → isNumeric c = false

/-- Symbols that do not begin with a digit. -/
def EndsDigits (rest : List Symbol) : Prop :=
  ∀ c, rest.head? = some (.char c) → isDigit c = false

/-- Digits do not go on with a character that is none. -/
theorem endsDigits_char {c : Char} (other : isDigit c = false) (rest : List Symbol) :
    EndsDigits (.char c :: rest) := by
  rintro d begins
  obtain rfl : c = d := by simpa using begins
  exact other

/-- Where no number goes on no digits go on. -/
theorem EndsNumber.endsDigits {rest : List Symbol} (ends : EndsNumber rest) : EndsDigits rest := by
  intro c begins
  have unlike := ends c begins
  simp only [isNumeric, Bool.or_eq_false_iff] at unlike
  exact unlike.1.1.1

/-- Where no number goes on no fraction begins. -/
theorem EndsNumber.head?_ne_point {rest : List Symbol} (ends : EndsNumber rest) :
    rest.head? ≠ some (.char '.') := by
  intro begins
  have unlike := ends '.' begins
  simp [isNumeric] at unlike

/-- The digits of a natural number are digits. -/
theorem isDigit_of_mem_decimalDigits {n : Nat} {c : Char} (mem : c ∈ decimalDigits n) :
    isDigit c = true := by
  have digit : c.isDigit = true :=
    Nat.isDigit_of_mem_toDigits (by decide) (by decide) mem
  simpa [isDigit, Char.isDigit, Char.le_def] using digit

/-- A natural number has digits. -/
theorem decimalDigits_ne_nil (n : Nat) : decimalDigits n ≠ [] :=
  Nat.toDigits_ne_nil

/-- The digits of a number begin with a digit. -/
theorem decimalDigits_eq_cons (n : Nat) :
    ∃ c tail, decimalDigits n = c :: tail ∧ isDigit c = true := by
  obtain ⟨c, tail, digits⟩ := List.exists_cons_of_ne_nil (decimalDigits_ne_nil n)
  exact ⟨c, tail, digits, isDigit_of_mem_decimalDigits (by rw [digits]; exact List.mem_cons_self)⟩

/-- The digits of a positive number do not begin with a zero. -/
theorem head?_decimalDigits {n : Nat} (positive : 0 < n) :
    (decimalDigits n).head? ≠ some '0' := by
  have nonzero : ∀ m < 10, 0 < m → Nat.digitChar m ≠ '0' := by decide
  unfold decimalDigits
  induction n using Nat.base_induction 10 (by decide) with
  | single m small =>
    rw [Nat.toDigits_of_lt_base small]
    simpa using nonzero m small positive
  | digit m k digit front ih =>
    rw [← Nat.toDigits_append_toDigits (by decide) front digit]
    cases digits : Nat.toDigits 10 m with
    | nil => exact absurd digits Nat.toDigits_ne_nil
    | cons c tail => simpa [digits] using ih front

/-! ## Reading -/

/-- Digits are taken up to what is no digit. -/
theorem takeDigits_digits {digits : List Char} (within : ∀ c ∈ digits, isDigit c = true)
    (offset : Nat) {rest : List Symbol} (ends : EndsDigits rest) :
    takeDigits offset (symbols digits ++ rest) =
      (digits, ⟨offset + digits.length, rest⟩) := by
  induction digits generalizing offset with
  | nil =>
    cases rest with
    | nil => rfl
    | cons symbol rest =>
      cases symbol with
      | stray width => rfl
      | char c => simp [takeDigits, ends c rfl]
  | cons c digits ih =>
    have first := within c List.mem_cons_self
    have others := ih (fun d mem => within d (List.mem_cons_of_mem c mem)) (offset + 1)
    simp only [symbols_cons, List.cons_append, takeDigits, first, if_true, others]
    simp only [List.length_cons, Nat.add_assoc, Nat.add_comm 1]

/-- Digits before a point are read. -/
theorem readWhole_digits {whole : List Char} (is : IsWhole whole) (offset : Nat)
    {rest : List Symbol} (ends : EndsDigits rest) :
    readWhole ⟨offset, symbols whole ++ rest⟩ =
      .ok (whole, ⟨offset + whole.length, rest⟩) := by
  obtain ⟨⟨nonempty, digits⟩, zero⟩ := is
  simp only [readWhole, takeDigits_digits digits offset ends]
  split
  · rename_i empty
    exact absurd (congrArg Prod.fst empty) nonempty
  · rename_i c tail after leading
    have begins : whole = '0' :: c :: tail := congrArg Prod.fst leading
    have alone : whole = ['0'] := zero (by rw [begins]; rfl)
    simp [alone] at begins
  · rename_i same
    rw [same]

/-- Digits behind a point, or none of them, are read. -/
theorem readFraction_digits {fraction text : List Char} (spells : SpellsFraction fraction text)
    (offset : Nat) {rest : List Symbol} (ends : EndsDigits rest)
    (point : rest.head? ≠ some (.char '.')) :
    readFraction ⟨offset, symbols text ++ rest⟩ =
      .ok (fraction, ⟨offset + text.length, rest⟩) := by
  cases spells with
  | absent =>
    simp only [symbols_nil, List.nil_append, List.length_nil, Nat.add_zero]
    unfold readFraction
    split
    · rename_i behind begins
      exact absurd (congrArg List.head? begins) point
    · rfl
  | digits are =>
    simp only [symbols_cons, List.cons_append, readFraction,
      takeDigits_digits are.2 (offset + 1) ends]
    split
    · rename_i empty
      exact absurd (congrArg Prod.fst empty) are.1
    · rename_i same
      rw [← same, List.length_cons, Nat.add_right_comm, Nat.add_assoc]

/-- Digits do not begin with a sign. -/
theorem readSign_digits {digits : List Char} (are : AreDigits digits) (offset : Nat)
    (rest : List Symbol) :
    readSign ⟨offset, symbols digits ++ rest⟩ = (false, ⟨offset, symbols digits ++ rest⟩) := by
  obtain ⟨c, tail, rfl⟩ := List.exists_cons_of_ne_nil are.1
  have digit := are.2 c List.mem_cons_self
  have minus : c ≠ '-' := by rintro rfl; simp [isDigit] at digit
  have plus : c ≠ '+' := by rintro rfl; simp [isDigit] at digit
  simp [readSign, minus, plus]

/-- The letter, the sign and the digits of an exponent are read. -/
theorem readExponent_signed {letter : Char} (exponential : letter = 'e' ∨ letter = 'E')
    (sign : List Char) {digits : List Char} {negative : Bool} (are : AreDigits digits)
    {offset : Nat} {rest : List Symbol} (ends : EndsDigits rest)
    (signed : readSign ⟨offset + 1, symbols sign ++ (symbols digits ++ rest)⟩ =
      (negative, ⟨offset + 1 + sign.length, symbols digits ++ rest⟩)) :
    readExponent ⟨offset, symbols (letter :: (sign ++ digits)) ++ rest⟩ =
      .ok (some (negative, digits), ⟨offset + (letter :: (sign ++ digits)).length, rest⟩) := by
  have known : (letter == 'e' || letter == 'E') = true := by simpa using exponential
  simp only [symbols_cons, symbols_append, List.cons_append, List.append_assoc, readExponent, known,
    if_true, signed, takeDigits_digits are.2 _ ends]
  split
  · rename_i empty
    exact absurd (congrArg Prod.fst empty) are.1
  · rename_i same
    obtain ⟨rfl, rfl⟩ := Prod.mk.inj same
    simp only [List.length_cons, List.length_append, Except.ok.injEq, Prod.mk.injEq,
      Cursor.mk.injEq, true_and, and_true]
    omega

/-- An exponent, or none, is read. -/
theorem readExponent_digits {exponent : Option (Bool × List Char)} {text : List Char}
    (spells : SpellsExponent exponent text) (offset : Nat) {rest : List Symbol}
    (ends : EndsNumber rest) :
    readExponent ⟨offset, symbols text ++ rest⟩ =
      .ok (exponent, ⟨offset + text.length, rest⟩) := by
  cases spells with
  | absent =>
    simp only [symbols_nil, List.nil_append, List.length_nil, Nat.add_zero]
    unfold readExponent
    split
    · rename_i c behind begins
      have letter := ends c (congrArg List.head? begins)
      simp only [isNumeric, Bool.or_eq_false_iff] at letter
      simp [letter]
    · rfl
  | unsigned exponential are =>
    exact readExponent_signed exponential [] are ends.endsDigits
      (readSign_digits are (offset + 1) rest)
  | plus exponential are =>
    exact readExponent_signed exponential ['+'] are ends.endsDigits rfl
  | minus exponential are =>
    exact readExponent_signed exponential ['-'] are ends.endsDigits rfl

/-- What may follow the digits before a point is no digit. -/
theorem SpellsExponent.endsDigits {exponent : Option (Bool × List Char)} {text : List Char}
    (spells : SpellsExponent exponent text) {rest : List Symbol} (ends : EndsNumber rest) :
    EndsDigits (symbols text ++ rest) ∧ (symbols text ++ rest).head? ≠ some (.char '.') := by
  have letters {letter : Char} (exponential : letter = 'e' ∨ letter = 'E') (behind : List Symbol) :
      EndsDigits (.char letter :: behind) ∧
        (Symbol.char letter :: behind).head? ≠ some (.char '.') := by
    rcases exponential with rfl | rfl <;> exact ⟨endsDigits_char rfl behind, by simp⟩
  cases spells with
  | absent => exact ⟨ends.endsDigits, ends.head?_ne_point⟩
  | unsigned exponential _ | plus exponential _ | minus exponential _ =>
    exact letters exponential _

/-- What may follow the digits before a point is no digit. -/
theorem SpellsFraction.endsDigits {fraction text : List Char}
    (spells : SpellsFraction fraction text) {rest : List Symbol} (ends : EndsDigits rest) :
    EndsDigits (symbols text ++ rest) := by
  cases spells with
  | absent => exact ends
  | digits are => exact endsDigits_char rfl _

/-- The parts of a number behind its sign. -/
def readUnsigned (negative : Bool) (cursor : Cursor) : Except BrokenNumber (Numeral × Cursor) :=
  readWhole cursor >>= fun whole => readFraction whole.2 >>= fun fraction =>
    readExponent fraction.2 >>= fun exponent =>
      .ok (⟨negative, whole.1, fraction.1, exponent.1⟩, exponent.2)

/-- A number is a minus sign and a number without one, or just that. -/
theorem readNumeral_cons (offset : Nat) (symbol : Symbol) (rest : List Symbol) :
    readNumeral ⟨offset, symbol :: rest⟩ =
      if symbol = .char '-' then readUnsigned true ⟨offset + 1, rest⟩
      else readUnsigned false ⟨offset, symbol :: rest⟩ := by
  by_cases minus : symbol = .char '-'
  · subst minus
    rfl
  · rw [if_neg minus]
    simp only [readNumeral, List.cons.injEq, minus, false_and, imp_self, implies_true]
    rfl

/-- A number without a sign is read part by part. -/
theorem readUnsigned_spelt (negative : Bool) {whole fraction fractionText exponentText : List Char}
    {exponent : Option (Bool × List Char)} (is : IsWhole whole)
    (isFraction : SpellsFraction fraction fractionText)
    (isExponent : SpellsExponent exponent exponentText) (offset : Nat) {rest : List Symbol}
    (ends : EndsNumber rest) :
    readUnsigned negative ⟨offset, symbols (whole ++ (fractionText ++ exponentText)) ++ rest⟩ =
      .ok (⟨negative, whole, fraction, exponent⟩,
        ⟨offset + (whole ++ (fractionText ++ exponentText)).length, rest⟩) := by
  obtain ⟨digits, point⟩ := isExponent.endsDigits ends
  simp only [symbols_append, List.append_assoc, readUnsigned,
    readWhole_digits is offset (isFraction.endsDigits digits), bind, Except.bind,
    readFraction_digits isFraction _ digits point, readExponent_digits isExponent _ ends,
    List.length_append, Nat.add_assoc]

/-- A number is read part by part. -/
theorem readNumeral_spelt {numeral : Numeral} {text : List Char}
    (spells : SpellsNumeral numeral text) (offset : Nat) {rest : List Symbol}
    (ends : EndsNumber rest) :
    readNumeral ⟨offset, symbols text ++ rest⟩ =
      .ok (numeral, ⟨offset + text.length, rest⟩) := by
  cases spells with
  | @mk negative whole fraction fractionText exponentText exponent is isFraction isExponent =>
    have unsigned := fun offset =>
      readUnsigned_spelt negative is isFraction isExponent offset ends
    cases negative with
    | true =>
      simp only [signText, if_true, List.cons_append, List.nil_append, symbols_cons]
      rw [readNumeral_cons, if_pos rfl, unsigned, List.length_cons, Nat.add_right_comm,
        Nat.add_assoc]
    | false =>
      obtain ⟨c, tail, rfl⟩ := List.exists_cons_of_ne_nil is.1.1
      have digit := is.1.2 c List.mem_cons_self
      have minus : c ≠ '-' := by rintro rfl; simp [isDigit] at digit
      have same := unsigned offset
      simp only [signText, Bool.false_eq_true, if_false, List.nil_append, List.cons_append,
        symbols_cons] at same ⊢
      rw [readNumeral_cons, if_neg (by simpa using minus), same]

/-- A number is found, and read as what its parts make. -/
theorem numberOutline_spelt {numeral : Numeral} {text : List Char}
    (spells : SpellsNumeral numeral text) (offset : Nat) {rest : List Symbol}
    (ends : EndsNumber rest) :
    ∃ content stop, numberOutline ⟨offset, symbols text ++ rest⟩ =
        (.number offset content stop, ⟨stop, rest⟩) ∧
      ∀ n, numeral.value = .ok n → content = .ok n := by
  simp only [numberOutline, readNumeral_spelt spells offset ends]
  refine ⟨_, _, rfl, fun n value => ?_⟩
  rw [value]

/-! ## Natural numbers -/

/-- Digits only add to a number. -/
theorem le_ofDigitChars (digits : List Char) (n : Nat) : n ≤ Nat.ofDigitChars 10 digits n := by
  induction digits generalizing n with
  | nil => simp
  | cons c digits ih =>
    rw [Nat.ofDigitChars_cons]
    exact Nat.le_trans (by omega) (ih _)

/-- Digits whose number is within bounds are all accumulated. -/
theorem accumulate_digits {bound : Nat} {digits : List Char} {n : Nat}
    (within : Nat.ofDigitChars 10 digits n ≤ bound) :
    accumulate bound n digits = (Nat.ofDigitChars 10 digits n, []) := by
  induction digits generalizing n with
  | nil => simp [accumulate]
  | cons c digits ih =>
    rw [Nat.ofDigitChars_cons] at within ⊢
    have next : 10 * n + digitValue c ≤ bound := Nat.le_trans (le_ofDigitChars digits _) within
    simp only [accumulate, if_pos next]
    exact ih within

/-- The digits of a natural number within bounds are accumulated to it. -/
theorem accumulate_decimalDigits {bound n : Nat} (within : n ≤ bound) :
    accumulate bound 0 (decimalDigits n) = (n, []) := by
  have value : Nat.ofDigitChars 10 (decimalDigits n) 0 = n := Nat.ofDigitChars_ten_toDigits
  rw [accumulate_digits (by rwa [value]), value]

/-- The value of a numeral that is the digits of a natural number. -/
theorem value_decimalDigits {n : Nat} (small : n ≤ greatestNatural) :
    Numeral.value ⟨false, decimalDigits n, [], none⟩ = .ok (.natural n) := by
  simp [Numeral.value, accumulate_decimalDigits small]

/-- The digits of a natural number have no zero before another digit. -/
theorem isWhole_decimalDigits (n : Nat) : IsWhole (decimalDigits n) := by
  refine ⟨⟨decimalDigits_ne_nil n, fun c mem => isDigit_of_mem_decimalDigits mem⟩, fun zero => ?_⟩
  cases n with
  | zero => rfl
  | succ n => exact absurd zero (head?_decimalDigits (Nat.succ_pos n))

/-- The digits of a natural number are a number. -/
theorem spellsNumeral_decimalDigits (n : Nat) :
    SpellsNumeral ⟨false, decimalDigits n, [], none⟩ (decimalDigits n) := by
  have spells : SpellsNumeral ⟨false, decimalDigits n, [], none⟩
      (signText false ++ (decimalDigits n ++ ([] ++ []))) :=
    .mk (isWhole_decimalDigits n) .absent .absent
  simpa [signText] using spells

end PromptDiagram.Json
