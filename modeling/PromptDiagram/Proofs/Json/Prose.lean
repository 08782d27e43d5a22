import PromptDiagram.Proofs.Json.Fitting
import PromptDiagram.Proofs.Json.Values

/-!
# Prose is refused

Words and numbers take no brace. So a text that begins like prose, with a character that opens no
list, object or string, is refused if a brace stands anywhere in it: the brace is left over behind
whatever is read, if anything is.
-/

namespace PromptDiagram.Json

open Numeric Text

/-- Whether an opening brace stands among symbols. -/
def HasBrace (rest : List Symbol) : Prop :=
  .char '{' ∈ rest

variable {rest : List Symbol} {offset : Nat}

/-- An opening brace stands behind any other character before it. -/
theorem HasBrace.of_cons {c : Char} (brace : HasBrace (.char c :: rest)) (other : c ≠ '{') :
    HasBrace rest := by
  simpa [HasBrace, other.symm] using brace

/-- Blanks include no brace. -/
theorem HasBrace.skipSpaces (brace : HasBrace rest) : HasBrace (skipSpaces offset rest).rest := by
  induction rest generalizing offset with
  | nil => exact brace
  | cons symbol rest ih =>
    cases symbol with
    | stray width => exact brace
    | char c =>
      rw [Json.skipSpaces]
      split
      · rename_i space
        exact ih (brace.of_cons (by rintro rfl; simp [isSpace] at space))
      · exact brace

/-- Digits include no brace. -/
theorem HasBrace.takeDigits (brace : HasBrace rest) :
    HasBrace (takeDigits offset rest).2.rest := by
  induction rest generalizing offset with
  | nil => exact brace
  | cons symbol rest ih =>
    cases symbol with
    | stray width => exact brace
    | char c =>
      rw [Json.takeDigits]
      split
      · rename_i digit
        exact ih (brace.of_cons (by rintro rfl; simp [isDigit] at digit))
      · exact brace

/-- Words include no brace. -/
theorem HasBrace.readWord {letters : List Char} (plain : '{' ∉ letters) {cursor after : Cursor}
    (brace : HasBrace cursor.rest) (read : readWord letters cursor = .ok after) :
    HasBrace after.rest := by
  induction letters generalizing cursor with
  | nil =>
    obtain rfl : cursor = after := by simpa [Json.readWord] using read
    exact brace
  | cons letter letters ih =>
    obtain ⟨offset, rest⟩ := cursor
    cases rest with
    | nil => simp [Json.readWord] at read
    | cons symbol rest =>
      simp only [Json.readWord] at read
      split at read
      · rename_i same
        subst same
        simp only [List.mem_cons, not_or] at plain
        exact ih plain.2 (brace.of_cons (Ne.symm plain.1)) read
      · simp at read

/-! ## Numbers -/

/-- The digits before a point include no brace. -/
theorem HasBrace.readWhole {cursor after : Cursor} {digits : List Char}
    (brace : HasBrace cursor.rest) (read : readWhole cursor = .ok (digits, after)) :
    HasBrace after.rest := by
  have behind : HasBrace (Json.takeDigits cursor.offset cursor.rest).2.rest := brace.takeDigits
  unfold Json.readWhole at read
  split at read
  · split at read <;> simp at read
  · simp at read
  · rename_i taken same
    simp only [Except.ok.injEq, Prod.mk.injEq] at read
    rw [same, read.2] at behind
    exact behind

/-- A fraction includes no brace. -/
theorem HasBrace.readFraction {cursor after : Cursor} {digits : List Char}
    (brace : HasBrace cursor.rest) (read : readFraction cursor = .ok (digits, after)) :
    HasBrace after.rest := by
  unfold Json.readFraction at read
  split at read
  · rename_i rest begins
    rw [begins] at brace
    have behind : HasBrace (Json.takeDigits (cursor.offset + 1) rest).2.rest :=
      (brace.of_cons (by decide)).takeDigits
    split at read
    · simp at read
    · rename_i taken same
      simp only [Except.ok.injEq, Prod.mk.injEq] at read
      rw [same, read.2] at behind
      exact behind
  · obtain ⟨-, rfl⟩ : [] = digits ∧ cursor = after := by simpa using read
    exact brace

/-- A sign is no brace. -/
theorem HasBrace.readSign {cursor : Cursor} (brace : HasBrace cursor.rest) :
    HasBrace (readSign cursor).2.rest := by
  unfold Json.readSign
  split
  · rename_i begins
    rw [begins] at brace
    exact brace.of_cons (by decide)
  · rename_i begins
    rw [begins] at brace
    exact brace.of_cons (by decide)
  · exact brace

/-- An exponent includes no brace. -/
theorem HasBrace.readExponent {cursor after : Cursor} {exponent : Option (Bool × List Char)}
    (brace : HasBrace cursor.rest) (read : readExponent cursor = .ok (exponent, after)) :
    HasBrace after.rest := by
  unfold Json.readExponent at read
  split at read
  · rename_i letter rest begins
    split at read
    · rename_i exponential
      rw [begins] at brace
      have unsigned : HasBrace (Json.readSign ⟨cursor.offset + 1, rest⟩).2.rest :=
        HasBrace.readSign (brace.of_cons (by rintro rfl; simp at exponential))
      rcases sign : Json.readSign ⟨cursor.offset + 1, rest⟩ with ⟨negative, signed⟩
      rw [sign] at read unsigned
      have behind : HasBrace (Json.takeDigits signed.offset signed.rest).2.rest :=
        unsigned.takeDigits
      dsimp only at read
      split at read
      · simp at read
      · rename_i taken same
        simp only [Except.ok.injEq, Prod.mk.injEq] at read
        rw [same, read.2] at behind
        exact behind
    · obtain ⟨-, rfl⟩ : none = exponent ∧ cursor = after := by simpa using read
      exact brace
  · obtain ⟨-, rfl⟩ : none = exponent ∧ cursor = after := by simpa using read
    exact brace

/-- A step that succeeds after another one had a result of that to go on with. -/
theorem exists_of_bind_eq_ok {ε α β : Type} {first : Except ε α} {next : α → Except ε β} {b : β}
    (done : first >>= next = .ok b) : ∃ a, first = .ok a ∧ next a = .ok b := by
  cases first with
  | error e => simp [bind, Except.bind] at done
  | ok a => exact ⟨a, rfl, done⟩

/-- Numbers include no brace. -/
theorem HasBrace.readNumeral {cursor after : Cursor} {numeral : Numeral}
    (brace : HasBrace cursor.rest) (read : readNumeral cursor = .ok (numeral, after)) :
    HasBrace after.rest := by
  unfold Json.readNumeral at read
  split at read
  rename_i negative signed sign
  have unsigned : HasBrace signed.rest := by
    split at sign
    · rename_i rest begins
      obtain ⟨-, rfl⟩ : true = negative ∧ _ = signed := by simpa using sign
      rw [begins] at brace
      exact brace.of_cons (by decide)
    · obtain ⟨-, rfl⟩ : false = negative ∧ cursor = signed := by simpa using sign
      exact brace
  obtain ⟨⟨whole, pointed⟩, readWhole, read⟩ := exists_of_bind_eq_ok read
  obtain ⟨⟨fraction, scaled⟩, readFraction, read⟩ := exists_of_bind_eq_ok read
  obtain ⟨⟨exponent, last⟩, readExponent, read⟩ := exists_of_bind_eq_ok read
  obtain ⟨-, rfl⟩ : _ ∧ last = after := by simpa [pure, Except.pure] using read
  exact ((unsigned.readWhole readWhole).readFraction readFraction).readExponent readExponent

/-! ## Scalars -/

/-- Whether an outline is that of no value, or a brace stands behind it. -/
def LeavesBrace (found : Outline × Cursor) : Prop :=
  HasBrace found.2.rest ∨ ∃ fault, found.1.value greatestDepth = .error fault

/-- A word leaves a brace behind, or is none. -/
theorem leavesBrace_wordOutline {cursor : Cursor} (brace : HasBrace cursor.rest)
    {letters : List Char} (plain : '{' ∉ letters) (word : Word) :
    LeavesBrace (wordOutline cursor letters word) := by
  unfold wordOutline
  cases read : readWord letters cursor with
  | ok after => exact .inl (brace.readWord plain read)
  | error fault => exact .inr ⟨fault, rfl⟩

/-- A number leaves a brace behind, or is none. -/
theorem leavesBrace_numberOutline {cursor : Cursor} (brace : HasBrace cursor.rest) :
    LeavesBrace (numberOutline cursor) := by
  unfold numberOutline
  cases read : readNumeral cursor with
  | ok after => exact .inl (brace.readNumeral read)
  | error broken => exact .inr ⟨broken.strict, rfl⟩

/-- A scalar that is no string leaves a brace behind, or is none. -/
theorem leavesBrace_scalarOutline {cursor : Cursor} (brace : HasBrace cursor.rest)
    (unquoted : ∀ behind, cursor.rest ≠ .char '"' :: behind) :
    LeavesBrace (scalarOutline cursor) := by
  unfold scalarOutline
  split
  · exact .inr ⟨_, rfl⟩
  · rename_i behind begins
    exact absurd begins (unquoted behind)
  · exact leavesBrace_wordOutline brace (by decide) _
  · exact leavesBrace_wordOutline brace (by decide) _
  · exact leavesBrace_wordOutline brace (by decide) _
  · split
    · exact leavesBrace_numberOutline brace
    · exact .inr ⟨_, rfl⟩
  · exact .inr ⟨_, rfl⟩

/-- A text that begins like prose is refused if a brace stands in it. -/
theorem parse_of_prose {c : Char} {text : List Char} (visible : isSpace c = false)
    (prose : c ≠ '[' ∧ c ≠ '{' ∧ c ≠ '"') (brace : '{' ∈ text) :
    ∃ refusal, parse (c :: text) = .error refusal := by
  have skipped : Cursor.skip ⟨0, symbols (c :: text)⟩ = ⟨0, symbols (c :: text)⟩ :=
    skipSpaces_char visible 0 (symbols text)
  have found : outlineAt (2 * (c :: text).length + 2) ⟨0, symbols (c :: text)⟩ =
      scalarOutline ⟨0, symbols (c :: text)⟩ := by
    have bracket : ∀ behind, symbols (c :: text) ≠ .char '[' :: behind := by simp [prose]
    have opening : ∀ behind, symbols (c :: text) ≠ .char '{' :: behind := by simp [prose]
    simp only [outlineAt, skipped]
  have within : HasBrace (symbols (c :: text)) :=
    List.mem_map_of_mem (List.mem_cons_of_mem c brace)
  have left : LeavesBrace (scalarOutline ⟨0, symbols (c :: text)⟩) :=
    leavesBrace_scalarOutline within (by simp [prose])
  rcases left with left | ⟨fault, refused⟩
  · exact parse_of_trailing found (List.ne_nil_of_mem left.skipSpaces)
  · exact parse_of_fault found refused

end PromptDiagram.Json
