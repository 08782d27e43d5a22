import PromptDiagram.Proofs.Json.Prose

/-!
# Tokens before what follows them

A token that ends within a text ends there whatever follows the text. Words and strings tell of
themselves where they end. Blanks and numbers end only where something else begins, so they must
leave something of the text over.
-/

namespace PromptDiagram.Json

open Numeric Text

/-- A place in a text that more text follows. -/
def Cursor.followedBy (cursor : Cursor) (more : List Symbol) : Cursor :=
  ⟨cursor.offset, cursor.rest ++ more⟩

/-- More text behind a place does not move the place. -/
@[simp]
theorem Cursor.followedBy_offset (cursor : Cursor) (more : List Symbol) :
    (cursor.followedBy more).offset = cursor.offset := rfl

variable {more : List Symbol}

/-! ## Blanks, digits and words -/

/-- Blanks that end within a text end there whatever follows the text. -/
theorem skipSpaces_append {offset : Nat} {rest : List Symbol}
    (within : (skipSpaces offset rest).rest ≠ []) :
    skipSpaces offset (rest ++ more) = (skipSpaces offset rest).followedBy more := by
  induction rest generalizing offset with
  | nil => exact absurd rfl within
  | cons symbol rest ih =>
    cases symbol with
    | stray width => rfl
    | char c =>
      rw [skipSpaces] at within
      rw [List.cons_append, skipSpaces, skipSpaces]
      by_cases space : isSpace c = true
      · rw [if_pos space] at within ⊢
        rw [if_pos space]
        exact ih within
      · rw [if_neg space, if_neg space]
        rfl

/-- Blanks that end within a text end there whatever follows the text. -/
theorem Cursor.skip_followedBy {cursor : Cursor} (within : cursor.skip.rest ≠ []) :
    (cursor.followedBy more).skip = cursor.skip.followedBy more :=
  skipSpaces_append within

/-- Where no text is left there is none behind the blanks. -/
theorem Cursor.rest_ne_nil_of_skip {cursor : Cursor} (within : cursor.skip.rest ≠ []) :
    cursor.rest ≠ [] := by
  rintro empty
  simp [Cursor.skip, empty, skipSpaces] at within

/-- A word is read alike whatever follows it. -/
theorem readWord_followedBy {letters : List Char} {cursor after : Cursor}
    (read : readWord letters cursor = .ok after) :
    readWord letters (cursor.followedBy more) = .ok (after.followedBy more) := by
  induction letters generalizing cursor with
  | nil =>
    obtain rfl : cursor = after := by simpa [readWord] using read
    rfl
  | cons letter letters ih =>
    obtain ⟨offset, rest⟩ := cursor
    cases rest with
    | nil => simp [readWord] at read
    | cons symbol rest =>
      simp only [Cursor.followedBy, List.cons_append, readWord] at read ⊢
      by_cases same : symbol = .char letter
      · rw [if_pos same] at read ⊢
        exact ih read
      · simp [same] at read

/-! ## Numbers -/

/-- Whether a reader that leaves some of a text over finds the same whatever follows the text. Of
no text it leaves nothing over. -/
def IsLocal {ε α : Type} (read : Cursor → Except ε (α × Cursor)) : Prop :=
  ∀ ⦃cursor after : Cursor⦄ ⦃a : α⦄, read cursor = .ok (a, after) → after.rest ≠ [] →
    cursor.rest ≠ [] ∧ ∀ more, read (cursor.followedBy more) = .ok (a, after.followedBy more)

/-- Two readers one after the other are local if each of them is. -/
theorem IsLocal.bind {ε α β : Type} {first : Cursor → Except ε (α × Cursor)}
    {next : α → Cursor → Except ε (β × Cursor)} (firstLocal : IsLocal first)
    (nextLocal : ∀ a, IsLocal (next a)) :
    IsLocal fun cursor => first cursor >>= fun found => next found.1 found.2 := by
  intro cursor after b read within
  obtain ⟨⟨a, between⟩, found, read⟩ := exists_of_bind_eq_ok read
  obtain ⟨left, others⟩ := nextLocal a read within
  obtain ⟨begins, same⟩ := firstLocal found left
  refine ⟨begins, fun more => ?_⟩
  simp only [same more]
  exact others more

/-- A reader that reads nothing is local. -/
theorem isLocal_pure {ε α : Type} (a : α) :
    IsLocal fun cursor => (.ok (a, cursor) : Except ε (α × Cursor)) := by
  intro cursor after b read within
  obtain ⟨rfl, rfl⟩ : a = b ∧ cursor = after := by simpa using read
  exact ⟨within, fun more => rfl⟩

/-- Digits that end within a text end there whatever follows the text. -/
theorem takeDigits_append {offset : Nat} {rest : List Symbol} {digits : List Char} {after : Cursor}
    (taken : takeDigits offset rest = (digits, after)) (within : after.rest ≠ []) :
    rest ≠ [] ∧ ∀ more, takeDigits offset (rest ++ more) = (digits, after.followedBy more) := by
  induction rest generalizing offset digits with
  | nil =>
    obtain ⟨-, rfl⟩ : [] = digits ∧ ⟨offset, []⟩ = after := by simpa [takeDigits] using taken
    exact absurd rfl within
  | cons symbol rest ih =>
    refine ⟨by simp, fun more => ?_⟩
    cases symbol with
    | stray width =>
      obtain ⟨rfl, rfl⟩ : [] = digits ∧ ⟨offset, .stray width :: rest⟩ = after := by
        simpa [takeDigits] using taken
      rfl
    | char c =>
      rw [takeDigits] at taken
      rw [List.cons_append, takeDigits]
      by_cases digit : isDigit c = true
      · rw [if_pos digit] at taken ⊢
        obtain ⟨rfl, behind⟩ := Prod.mk.inj taken
        have others := (ih (Prod.ext rfl behind)).2 more
        rw [others]
      · rw [if_neg digit] at taken ⊢
        obtain ⟨rfl, rfl⟩ := Prod.mk.inj taken
        rfl

/-- The digits before a point are local. -/
theorem isLocal_readWhole : IsLocal readWhole := by
  intro cursor after digits read within
  unfold readWhole at read
  split at read
  · split at read <;> simp at read
  · simp at read
  · rename_i same
    obtain ⟨rfl, rfl⟩ : _ = digits ∧ _ = after := by simpa using read
    obtain ⟨begins, longer⟩ := takeDigits_append same within
    refine ⟨begins, fun more => ?_⟩
    simp only [readWhole, Cursor.followedBy, longer more]

/-- The digits behind a point are local. -/
theorem isLocal_readFraction : IsLocal readFraction := by
  intro cursor after digits read within
  obtain ⟨offset, rest⟩ := cursor
  cases rest with
  | nil =>
    obtain ⟨-, rfl⟩ : [] = digits ∧ ⟨offset, []⟩ = after := by simpa [readFraction] using read
    exact absurd rfl within
  | cons symbol rest =>
    refine ⟨by simp, fun more => ?_⟩
    by_cases point : symbol = .char '.'
    · subst point
      simp only [readFraction] at read
      split at read
      · simp at read
      · rename_i same
        obtain ⟨rfl, rfl⟩ : _ = digits ∧ _ = after := by simpa using read
        simp only [readFraction, Cursor.followedBy, List.cons_append,
          (takeDigits_append same within).2 more]
    · obtain ⟨rfl, rfl⟩ : [] = digits ∧ ⟨offset, symbol :: rest⟩ = after := by
        simpa [readFraction, point] using read
      simp [readFraction, Cursor.followedBy, point]

/-- A sign is local. -/
theorem readSign_followedBy (cursor : Cursor) (begins : cursor.rest ≠ []) (more : List Symbol) :
    readSign (cursor.followedBy more) =
      ((readSign cursor).1, (readSign cursor).2.followedBy more) := by
  obtain ⟨offset, rest⟩ := cursor
  cases rest with
  | nil => exact absurd rfl begins
  | cons symbol rest =>
    by_cases minus : symbol = .char '-'
    · subst minus
      rfl
    · by_cases plus : symbol = .char '+'
      · subst plus
        rfl
      · simp [readSign, Cursor.followedBy, minus, plus]

/-- An exponent is local. -/
theorem isLocal_readExponent : IsLocal readExponent := by
  intro cursor after exponent read within
  obtain ⟨offset, rest⟩ := cursor
  cases rest with
  | nil =>
    obtain ⟨-, rfl⟩ : none = exponent ∧ ⟨offset, []⟩ = after := by
      simpa [readExponent] using read
    exact absurd rfl within
  | cons symbol rest =>
    refine ⟨by simp, fun more => ?_⟩
    cases symbol with
    | stray width =>
      obtain ⟨rfl, rfl⟩ : none = exponent ∧ ⟨offset, .stray width :: rest⟩ = after := by
        simpa [readExponent] using read
      rfl
    | char letter =>
      simp only [readExponent] at read
      simp only [readExponent, Cursor.followedBy, List.cons_append]
      by_cases exponential : (letter == 'e' || letter == 'E') = true
      · rw [if_pos exponential] at read ⊢
        rcases sign : readSign ⟨offset + 1, rest⟩ with ⟨negative, signed⟩
        rw [sign] at read
        dsimp only at read
        split at read
        · simp at read
        · rename_i same
          obtain ⟨rfl, rfl⟩ : _ = exponent ∧ _ = after := by simpa using read
          obtain ⟨left, longer⟩ := takeDigits_append same within
          have begins : rest ≠ [] := by
            rintro rfl
            obtain ⟨-, rfl⟩ : false = negative ∧ ⟨offset + 1, []⟩ = signed := by
              simpa [readSign] using sign
            exact left rfl
          have longerSign := readSign_followedBy ⟨offset + 1, rest⟩ begins more
          rw [sign] at longerSign
          simp only [Cursor.followedBy] at longerSign longer ⊢
          simp only [longerSign, longer more]
      · rw [if_neg exponential] at read ⊢
        obtain ⟨rfl, rfl⟩ : none = exponent ∧ ⟨offset, .char letter :: rest⟩ = after := by
          simpa using read
        rfl

/-- A number without a sign is local. -/
theorem isLocal_readUnsigned (negative : Bool) : IsLocal (readUnsigned negative) :=
  isLocal_readWhole.bind fun whole => isLocal_readFraction.bind fun fraction =>
    isLocal_readExponent.bind fun exponent =>
      isLocal_pure (Numeral.mk negative whole fraction exponent)

/-- A number is local. -/
theorem isLocal_readNumeral : IsLocal readNumeral := by
  intro cursor after numeral read within
  obtain ⟨offset, rest⟩ := cursor
  cases rest with
  | nil => simp [readNumeral, readWhole, takeDigits, bind, Except.bind] at read
  | cons symbol rest =>
    refine ⟨by simp, fun more => ?_⟩
    rw [readNumeral_cons] at read
    simp only [Cursor.followedBy, List.cons_append]
    rw [readNumeral_cons]
    by_cases minus : symbol = .char '-'
    · rw [if_pos minus] at read ⊢
      exact (isLocal_readUnsigned true read within).2 more
    · rw [if_neg minus] at read ⊢
      exact (isLocal_readUnsigned false read within).2 more

/-! ## Strings -/

section

variable {σ α : Type}

/-- What a reader in a state does at a symbol, whatever follows the symbol: it goes on behind it in
another state, it is done there, or it stops. -/
inductive Turn (read : σ → List Symbol → Except Fault α) (follow : α → List Symbol → α)
    (state : σ) (symbol : Symbol) : Prop where
  | goesOn (next : σ) (same : ∀ rest, read state (symbol :: rest) = read next rest)
  | done (result : List Symbol → α)
      (same : ∀ rest, read state (symbol :: rest) = .ok (result rest))
      (further : ∀ rest more, result (rest ++ more) = follow (result rest) more)
  | stops (fault : List Symbol → Fault)
      (same : ∀ rest, read state (symbol :: rest) = .error (fault rest))

/-- A reader that goes from symbol to symbol, and finds nothing in no text, finds the same whatever
follows the text. -/
theorem read_append_of_turn {read : σ → List Symbol → Except Fault α}
    {follow : α → List Symbol → α} (turn : ∀ state symbol, Turn read follow state symbol)
    (ends : ∀ state, ∃ fault, read state [] = .error fault) {state : σ} {rest : List Symbol} {a : α}
    (found : read state rest = .ok a) (more : List Symbol) :
    read state (rest ++ more) = .ok (follow a more) := by
  induction rest generalizing state with
  | nil =>
    obtain ⟨fault, ended⟩ := ends state
    simp [ended] at found
  | cons symbol rest ih =>
    rw [List.cons_append]
    cases turn state symbol with
    | goesOn next same =>
      rw [same] at found ⊢
      exact ih found
    | done result same further =>
      rw [same] at found ⊢
      obtain rfl : result rest = a := by simpa using found
      rw [further]
    | stops fault same => simp [same] at found

end

/-- Reading a string that is wanted, with all it carries along as one state. -/
def readOn (state : List Symbol × Place × Nat) : List Symbol → Except Fault (String × Cursor) :=
  readText state.1 state.2.1 state.2.2

/-- Passing over a string, with all it carries along as one state. -/
def passOn (state : Place × Nat) : List Symbol → Except Fault Cursor :=
  passText state.1 state.2

/-- A string that was read, with more text behind it. -/
def followed (found : String × Cursor) (more : List Symbol) : String × Cursor :=
  (found.1, found.2.followedBy more)

section

variable (before : List Symbol) (offset : Nat) (symbol : Symbol)

/-- The turns of reading where no escape is open. -/
theorem readOn_plain : Turn readOn followed (before, .plain, offset) symbol := by
  cases symbol with
  | stray width => exact .goesOn (.stray width :: before, .plain, offset + width) fun rest => rfl
  | char c =>
    by_cases mark : (c == '"') = true
    · cases finished : finishText offset before.reverse with
      | ok content =>
        refine .done (fun rest => (content, ⟨offset + 1, rest⟩)) (fun rest => ?_)
          fun rest more => rfl
        simp only [readOn, readText, if_pos mark, finished, Except.map]
      | error fault =>
        refine .stops (fun rest => fault) fun rest => ?_
        simp only [readOn, readText, if_pos mark, finished, Except.map]
    · by_cases slash : (c == '\\') = true
      · refine .goesOn (before, .escape none, offset + 1) fun rest => ?_
        simp only [readOn, readText, if_neg mark, if_pos slash]
      · by_cases control : c.toNat < 0x20
        · refine .stops (fun rest => .here .controlCharacter (offset + 1)) fun rest => ?_
          simp only [readOn, readText, if_neg mark, if_neg slash, if_pos control]
        · refine .goesOn (.char c :: before, .plain, offset + c.utf8Size) fun rest => ?_
          simp only [readOn, readText, if_neg mark, if_neg slash, if_neg control]

/-- The turns of reading behind a backslash. -/
theorem readOn_escape (high : Option Nat) :
    Turn readOn followed (before, .escape high, offset) symbol := by
  cases symbol with
  | stray width => exact .stops _ fun rest => rfl
  | char c =>
    by_cases unit : (c == 'u') = true
    · refine .goesOn (before, .unit high 4 0, offset + 1) fun rest => ?_
      simp only [readOn, readText, if_pos unit]
    · by_cases half : high.isSome = true
      · refine .stops (fun rest => .here .unpairedSurrogate (offset + 1)) fun rest => ?_
        simp only [readOn, readText, if_neg unit, if_pos half]
      · cases meaning : escaped? c with
        | some meant =>
          refine .goesOn (.char meant :: before, .plain, offset + 1) fun rest => ?_
          simp only [readOn, readText, if_neg unit, if_neg half, meaning]
        | none =>
          refine .stops (fun rest => .here .badEscape (offset + 1)) fun rest => ?_
          simp only [readOn, readText, if_neg unit, if_neg half, meaning]

/-- The turns of reading within the digits of a code unit. -/
theorem readOn_unit (high : Option Nat) (missing value : Nat) :
    Turn readOn followed (before, .unit high missing value, offset) symbol := by
  cases symbol with
  | stray width => exact .stops _ fun rest => rfl
  | char c =>
    cases hexadecimal : hexValue? c with
    | none =>
      refine .stops (fun rest => brokenUnit offset missing (.char c :: rest)) fun rest => ?_
      simp only [readOn, readText, hexadecimal]
    | some digit =>
      by_cases last : missing ≤ 1
      · rcases closed : closeUnit (offset + 1) high (16 * value + digit) with
          fault | ⟨_ | meant, place⟩
        · refine .stops (fun rest => fault) fun rest => ?_
          simp only [readOn, readText, hexadecimal, if_pos last, closed]
        · refine .goesOn (before, place, offset + 1) fun rest => ?_
          simp only [readOn, readText, hexadecimal, if_pos last, closed]
        · refine .goesOn (.char meant :: before, place, offset + 1) fun rest => ?_
          simp only [readOn, readText, hexadecimal, if_pos last, closed]
      · refine .goesOn (before, .unit high (missing - 1) (16 * value + digit), offset + 1)
          fun rest => ?_
        simp only [readOn, readText, hexadecimal, if_neg last]

/-- The turns of reading where the second half of a surrogate pair has to begin. -/
theorem readOn_pair (high : Nat) : Turn readOn followed (before, .pair high, offset) symbol := by
  cases symbol with
  | stray width => exact .stops _ fun rest => rfl
  | char c =>
    by_cases slash : (c == '\\') = true
    · refine .goesOn (before, .escape (some high), offset + 1) fun rest => ?_
      simp only [readOn, readText, if_pos slash]
    · refine .stops (fun rest => .here .unpairedSurrogate (offset + 1)) fun rest => ?_
      simp only [readOn, readText, if_neg slash]

/-- The turns of passing over where no escape is open. -/
theorem passOn_plain : Turn passOn Cursor.followedBy (.plain, offset) symbol := by
  cases symbol with
  | stray width => exact .goesOn (.plain, offset + width) fun rest => rfl
  | char c =>
    by_cases mark : (c == '"') = true
    · refine .done (fun rest => ⟨offset + 1, rest⟩) (fun rest => ?_) fun rest more => rfl
      simp only [passOn, passText, if_pos mark]
    · by_cases slash : (c == '\\') = true
      · refine .goesOn (.escape none, offset + 1) fun rest => ?_
        simp only [passOn, passText, if_neg mark, if_pos slash]
      · by_cases control : c.toNat < 0x20
        · refine .stops (fun rest => .here .controlCharacter offset) fun rest => ?_
          simp only [passOn, passText, if_neg mark, if_neg slash, if_pos control]
        · refine .goesOn (.plain, offset + c.utf8Size) fun rest => ?_
          simp only [passOn, passText, if_neg mark, if_neg slash, if_neg control]

/-- The turns of passing over behind a backslash. -/
theorem passOn_escape (high : Option Nat) :
    Turn passOn Cursor.followedBy (.escape high, offset) symbol := by
  cases symbol with
  | stray width => exact .stops _ fun rest => rfl
  | char c =>
    by_cases unit : (c == 'u') = true
    · refine .goesOn (.unit none 4 0, offset + 1) fun rest => ?_
      simp only [passOn, passText, if_pos unit]
    · by_cases known : (escaped? c).isSome = true
      · refine .goesOn (.plain, offset + 1) fun rest => ?_
        simp only [passOn, passText, if_neg unit, if_pos known]
      · refine .stops (fun rest => .here .badEscape (offset + 1)) fun rest => ?_
        simp only [passOn, passText, if_neg unit, if_neg known]

/-- The turns of passing over within the digits of a code unit. -/
theorem passOn_unit (high : Option Nat) (missing value : Nat) :
    Turn passOn Cursor.followedBy (.unit high missing value, offset) symbol := by
  cases symbol with
  | stray width => exact .stops _ fun rest => rfl
  | char c =>
    by_cases digit : (hexValue? c).isSome = true
    · refine .goesOn (if missing ≤ 1 then .plain else .unit none (missing - 1) 0, offset + 1)
        fun rest => ?_
      simp only [passOn, passText, if_pos digit]
    · refine .stops (fun rest => brokenUnit offset missing (.char c :: rest)) fun rest => ?_
      simp only [passOn, passText, if_neg digit]

/-- The turns of passing over where the second half of a surrogate pair would have to begin. -/
theorem passOn_pair (high : Nat) : Turn passOn Cursor.followedBy (.pair high, offset) symbol := by
  -- Nobody asks for the second half here.
  have plain (rest : List Symbol) :
      passOn (.pair high, offset) (symbol :: rest) = passOn (.plain, offset) (symbol :: rest) := by
    cases symbol <;> rfl
  cases passOn_plain offset symbol with
  | goesOn next same => exact .goesOn next fun rest => (plain rest).trans (same rest)
  | done result same further =>
    exact .done result (fun rest => (plain rest).trans (same rest)) further
  | stops fault same => exact .stops fault fun rest => (plain rest).trans (same rest)

end

/-- Reading a string takes its turn at every symbol. -/
theorem readOn_turn (state : List Symbol × Place × Nat) (symbol : Symbol) :
    Turn readOn followed state symbol := by
  obtain ⟨before, place, offset⟩ := state
  cases place with
  | plain => exact readOn_plain before offset symbol
  | escape high => exact readOn_escape before offset symbol high
  | unit high missing value => exact readOn_unit before offset symbol high missing value
  | pair high => exact readOn_pair before offset symbol high

/-- Passing over a string takes its turn at every symbol. -/
theorem passOn_turn (state : Place × Nat) (symbol : Symbol) :
    Turn passOn Cursor.followedBy state symbol := by
  obtain ⟨place, offset⟩ := state
  cases place with
  | plain => exact passOn_plain offset symbol
  | escape high => exact passOn_escape offset symbol high
  | unit high missing value => exact passOn_unit offset symbol high missing value
  | pair high => exact passOn_pair offset symbol high

/-- A string is read alike whatever follows it. -/
theorem readText_append {before : List Symbol} {place : Place} {offset : Nat} {rest : List Symbol}
    {content : String} {after : Cursor}
    (read : readText before place offset rest = .ok (content, after)) (more : List Symbol) :
    readText before place offset (rest ++ more) = .ok (content, after.followedBy more) := by
  have found : readOn (before, place, offset) rest = .ok (content, after) := read
  exact read_append_of_turn readOn_turn (fun state => ⟨_, rfl⟩) found more

/-- A string is passed over alike whatever follows it. -/
theorem passText_append {place : Place} {offset : Nat} {rest : List Symbol} {after : Cursor}
    (read : passText place offset rest = .ok after) (more : List Symbol) :
    passText place offset (rest ++ more) = .ok (after.followedBy more) := by
  have found : passOn (place, offset) rest = .ok after := read
  exact read_append_of_turn passOn_turn (fun state => ⟨_, rfl⟩) found more

/-- A string that a strict reader does not refuse is quoted alike whatever follows it. -/
theorem readQuoted_followedBy {cursor after : Cursor} {name : Name} {content : String}
    (read : readQuoted cursor = .ok (name, after)) (strict : name.content = .ok content)
    (more : List Symbol) :
    readQuoted (cursor.followedBy more) = .ok (name, after.followedBy more) := by
  unfold readQuoted at read
  dsimp only at read
  split at read
  · rename_i passed
    obtain ⟨rfl, rfl⟩ : _ = name ∧ _ = after := by simpa using read
    cases text : readText [] .plain cursor.offset cursor.rest with
    | error fault => simp [text, Except.map] at strict
    | ok found =>
      obtain ⟨content', behind⟩ := found
      simp [readQuoted, Cursor.followedBy, passText_append passed more,
        readText_append text more, Except.map]
  · split at read <;> simp at read

end PromptDiagram.Json
