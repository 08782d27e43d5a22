import PromptDiagram.Proofs.Json.Numerals

/-!
# Values that can be read back

What is read back is a value whose numbers are natural numbers of 64 bits and whose brackets and
braces are not too deep. Blanks before a value are passed over, up to a character that cannot be
taken for one of them or for the end of what the value stands in.
-/

namespace PromptDiagram.Json

open Numeric Text

/-! ## Values that can be read back -/

/-- Whether a number is read back: it is a natural number of 64 bits. -/
def Number.fits : Number → Bool
  | .natural n => n ≤ greatestNatural
  | _ => false

mutual

/-- Whether a value is read back: its numbers are, and it has at most `room` brackets and braces one
within the other. -/
def Value.fits (room : Nat) : Value → Bool
  | .number n => n.fits
  | .array items =>
    match room with
    | 0 => false
    | room + 1 => fitItems room items
  | .object members =>
    match room with
    | 0 => false
    | room + 1 => fitMembers room members
  | _ => true

/-- Whether all of a list of values are read back. -/
def fitItems (room : Nat) : List Value → Bool
  | [] => true
  | item :: rest => item.fits room && fitItems room rest

/-- Whether the values of all members are read back. -/
def fitMembers (room : Nat) : List (String × Value) → Bool
  | [] => true
  | (_, value) :: rest => value.fits room && fitMembers room rest

end

/-- All of a list of values are read back if and only if each of them is. -/
theorem fitItems_iff {room : Nat} {items : List Value} :
    fitItems room items = true ↔ ∀ item ∈ items, item.fits room = true := by
  induction items with
  | nil => simp [fitItems]
  | cons item items ih => simp [fitItems, ih]

/-- The values of all members are read back if and only if each of them is. -/
theorem fitMembers_iff {room : Nat} {members : List (String × Value)} :
    fitMembers room members = true ↔ ∀ member ∈ members, member.2.fits room = true := by
  induction members with
  | nil => simp [fitMembers]
  | cons member members ih =>
    simp only [fitMembers, Bool.and_eq_true, ih, List.forall_mem_cons]

/-- An array is read back if its items are, one level further in. -/
theorem fits_array_iff {room : Nat} {items : List Value} : (Value.array items).fits room = true ↔
    ∃ inside, room = inside + 1 ∧ ∀ item ∈ items, item.fits inside = true := by
  cases room <;> simp [Value.fits, fitItems_iff]

/-- An object is read back if the values of its members are, one level further in. -/
theorem fits_object_iff {room : Nat} {members : List (String × Value)} :
    (Value.object members).fits room = true ↔
      ∃ inside, room = inside + 1 ∧ ∀ member ∈ members, member.2.fits inside = true := by
  cases room <;> simp [Value.fits, fitMembers_iff]

/-! ## Blanks -/

/-- Blanks are passed over. -/
theorem skipSpaces_spaces {spaces : List Char} (blank : ∀ c ∈ spaces, isSpace c = true)
    (offset : Nat) (rest : List Symbol) :
    skipSpaces offset (symbols spaces ++ rest) = skipSpaces (offset + spaces.length) rest := by
  induction spaces generalizing offset with
  | nil => rfl
  | cons c spaces ih =>
    have first := blank c List.mem_cons_self
    rw [symbols_cons, List.cons_append, skipSpaces, if_pos first,
      ih (fun d mem => blank d (List.mem_cons_of_mem c mem))]
    simp only [List.length_cons, Nat.add_assoc, Nat.add_comm 1]

/-- Nothing is passed over before a character that is no blank. -/
theorem skipSpaces_char {c : Char} (visible : isSpace c = false) (offset : Nat)
    (rest : List Symbol) : skipSpaces offset (.char c :: rest) = ⟨offset, .char c :: rest⟩ := by
  simp [skipSpaces, visible]

/-- No number goes on with a character outside numbers. -/
theorem endsNumber_char {c : Char} (other : isNumeric c = false) (rest : List Symbol) :
    EndsNumber (.char c :: rest) := by
  rintro d begins
  obtain rfl : c = d := by simpa using begins
  exact other

/-- No number goes on with blanks. -/
theorem endsNumber_spaces {spaces : List Char} (blank : ∀ c ∈ spaces, isSpace c = true)
    {rest : List Symbol} (ends : EndsNumber rest) : EndsNumber (symbols spaces ++ rest) := by
  cases spaces with
  | nil => exact ends
  | cons c spaces =>
    have first := blank c List.mem_cons_self
    apply endsNumber_char
    simp only [isSpace, Bool.or_eq_true, beq_iff_eq] at first
    rcases first with ((rfl | rfl) | rfl) | rfl <;> decide

/-! ## First characters -/

/-- Whether a text may begin a value: it begins with a character that is no blank and closes
nothing. -/
def Opens (text : List Symbol) : Prop :=
  ∃ c rest, text = .char c :: rest ∧ isSpace c = false ∧ c ≠ ']' ∧ c ≠ '}'

/-- A digit is none of certain characters. -/
theorem ne_of_isDigit {c d : Char} (digit : isDigit c = true) (other : isDigit d = false) :
    c ≠ d := by
  rintro rfl
  simp [digit] at other

/-- Blanks before what may begin a value are passed over, and nothing else. -/
theorem Opens.skip {text : List Symbol} (opens : Opens text) {spaces : List Char}
    (blank : ∀ c ∈ spaces, isSpace c = true) (offset : Nat) :
    skipSpaces offset (symbols spaces ++ text) = ⟨offset + spaces.length, text⟩ := by
  obtain ⟨c, rest, rfl, visible, -⟩ := opens
  rw [skipSpaces_spaces blank, skipSpaces_char visible]

/-- A text that may begin a value is not empty. -/
theorem Opens.ne_nil {text : List Symbol} (opens : Opens text) : text ≠ [] := by
  obtain ⟨c, rest, rfl, -⟩ := opens
  simp

/-- A text that may begin a value does not begin with a closing bracket. -/
theorem Opens.ne_bracket {text : List Symbol} (opens : Opens text) (behind : List Symbol) :
    text ≠ .char ']' :: behind := by
  obtain ⟨c, rest, rfl, -, bracket, -⟩ := opens
  simp [bracket]

/-- A text that may begin a value does not begin with a closing brace. -/
theorem Opens.ne_brace {text : List Symbol} (opens : Opens text) (behind : List Symbol) :
    text ≠ .char '}' :: behind := by
  obtain ⟨c, rest, rfl, -, -, brace⟩ := opens
  simp [brace]

end PromptDiagram.Json
