import Mathlib.Data.List.DropRight
import PromptDiagram.Text.Character

/-!
# Runs of characters

Readers take the longest run of characters of a class. The statements say what is taken and what
is left where a run is followed by a text that does not carry it on, and that trimming undoes
padding with blanks.
-/

namespace PromptDiagram.Text

variable {p : Char → Bool} {run rest : List Char}

/-- The number of a character is the one that it is made of. -/
theorem toNat_ofNat {n : Nat} (valid : n.isValidChar) : (Char.ofNat n).toNat = n := by
  rw [Char.ofNat, dif_pos valid]
  rfl

/-- A text that begins with no character of a class, if it begins at all. -/
def Stops (p : Char → Bool) (text : List Char) : Prop :=
  ∀ c ∈ text.head?, p c = false

instance (p : Char → Bool) (text : List Char) : Decidable (Stops p text) :=
  decidable_of_iff (text.head?.all fun c => !p c) (by cases text <;> simp [Stops])

/-- The end of a text carries no run on. -/
theorem stops_nil (p : Char → Bool) : Stops p [] := by
  simp [Stops]

/-- A text stops a run exactly when its first character is outside the class. -/
theorem stops_cons {c : Char} : Stops p (c :: rest) ↔ p c = false := by
  simp [Stops]

/-- What begins with characters that stop a run stops it. -/
theorem Stops.append {front : List Char} (stops : Stops p front) (nonempty : front ≠ [])
    (back : List Char) : Stops p (front ++ back) := by
  cases front with
  | nil => exact absurd rfl nonempty
  | cons c front => exact stops_cons.mpr (stops_cons.mp stops)

/-- What stops a run stops it also behind what stops it. -/
theorem Stops.both {front back : List Char} (stops : Stops p front) (stops' : Stops p back) :
    Stops p (front ++ back) := by
  cases front with
  | nil => exact stops'
  | cons c front => exact stops.append (List.cons_ne_nil _ _) back

/-- What ends with characters that stop a run from behind stops it from there. -/
theorem Stops.behind {back : List Char} (stops : Stops p back.reverse) (nonempty : back ≠ [])
    (front : List Char) : Stops p (front ++ back).reverse := by
  rw [List.reverse_append]
  exact stops.append (by simpa using nonempty) front.reverse

/-- The run of a class in a text that begins with no character of it is empty. -/
theorem takeWhile_of_stops (stops : Stops p rest) : rest.takeWhile p = [] := by
  cases rest with
  | nil => rfl
  | cons c rest => rw [List.takeWhile_cons_of_neg (by simp [stops_cons.mp stops])]

/-- Nothing is passed over in a text that begins with no character of a class. -/
theorem dropWhile_of_stops (stops : Stops p rest) : rest.dropWhile p = rest := by
  cases rest with
  | nil => rfl
  | cons c rest => rw [List.dropWhile_cons_of_neg (by simp [stops_cons.mp stops])]

/-- A run that what follows does not carry on is taken as a whole. -/
theorem takeWhile_run (within : ∀ c ∈ run, p c = true) (stops : Stops p rest) :
    (run ++ rest).takeWhile p = run := by
  rw [List.takeWhile_append_of_pos within, takeWhile_of_stops stops, List.append_nil]

/-- What follows a run that it does not carry on is left as a whole. -/
theorem dropWhile_run (within : ∀ c ∈ run, p c = true) (stops : Stops p rest) :
    (run ++ rest).dropWhile p = rest := by
  rw [List.dropWhile_append_of_pos within, dropWhile_of_stops stops]

/-- A text is taken apart in one way into a run and what does not carry it on. -/
theorem append_inj_of_stops {run' rest' : List Char} (within : ∀ c ∈ run, p c = true)
    (stops : Stops p rest) (within' : ∀ c ∈ run', p c = true) (stops' : Stops p rest')
    (same : run ++ rest = run' ++ rest') : run = run' ∧ rest = rest' := by
  have taken := congrArg (List.takeWhile p) same
  have left := congrArg (List.dropWhile p) same
  rw [takeWhile_run within stops, takeWhile_run within' stops'] at taken
  rw [dropWhile_run within stops, dropWhile_run within' stops'] at left
  exact ⟨taken, left⟩

/-- What is passed over in a text stands before whatever stops a run. -/
theorem dropWhile_append_of_stops (text : List Char) (stops : Stops p rest) :
    (text ++ rest).dropWhile p = text.dropWhile p ++ rest := by
  induction text with
  | nil => exact dropWhile_of_stops stops
  | cons c text ih =>
    cases within : p c with
    | true =>
      rw [List.cons_append, List.dropWhile_cons_of_pos within, ih,
        List.dropWhile_cons_of_pos within]
    | false =>
      rw [List.cons_append, List.dropWhile_cons_of_neg (by simp [within]),
        List.dropWhile_cons_of_neg (by simp [within]), List.cons_append]

/-- What is taken of a text is the same before whatever stops a run. -/
theorem takeWhile_append_of_stops (text : List Char) (stops : Stops p rest) :
    (text ++ rest).takeWhile p = text.takeWhile p := by
  induction text with
  | nil => exact takeWhile_of_stops stops
  | cons c text ih =>
    cases within : p c with
    | true =>
      rw [List.cons_append, List.takeWhile_cons_of_pos within, ih,
        List.takeWhile_cons_of_pos within]
    | false =>
      rw [List.cons_append, List.takeWhile_cons_of_neg (by simp [within]),
        List.takeWhile_cons_of_neg (by simp [within])]

/-- What is left of a text by a run stops the run. -/
theorem stops_dropWhile (p : Char → Bool) (text : List Char) : Stops p (text.dropWhile p) := by
  intro c first
  have head := List.head?_dropWhile_not p text
  rw [first] at head
  exact head

/-- A text with no blank at either end. -/
structure IsTrimmed (text : List Char) : Prop where
  first : ∀ c ∈ text.head?, isBlank c = false
  last : ∀ c ∈ text.getLast?, isBlank c = false

/-- A text whose last character is no blank loses nothing at its end. -/
theorem trimEnd_of_last {text : List Char} (last : ∀ c ∈ text.getLast?, isBlank c = false) :
    trimEnd text = text := by
  have stops : Stops isBlank text.reverse := by
    simpa only [Stops, List.head?_reverse] using last
  rw [trimEnd, dropWhile_of_stops stops, List.reverse_reverse]

/-- What is lost at the end of a text stands behind its last character that is no blank. -/
theorem trimEnd_append_of_last {text : List Char} (after : List Char)
    (last : Stops isBlank text.reverse) : trimEnd (text ++ after) = text ++ trimEnd after := by
  simp only [trimEnd, List.reverse_append, dropWhile_append_of_stops _ last,
    List.reverse_reverse]

/-- Trimming takes the padding away and nothing else. -/
theorem trim_padded {left text right : List Char} (blankLeft : ∀ c ∈ left, isBlank c = true)
    (trimmed : IsTrimmed text) (blankRight : ∀ c ∈ right, isBlank c = true) :
    trim (left ++ text ++ right) = text := by
  rw [trim, List.append_assoc, List.dropWhile_append_of_pos blankLeft]
  cases text with
  | nil =>
    have gone : (right ++ []).dropWhile isBlank = [] := by
      rw [List.dropWhile_append_of_pos blankRight, List.dropWhile_nil]
    rw [List.append_nil] at gone
    rw [List.nil_append, gone]
    rfl
  | cons c rest =>
    have stops : Stops isBlank (c :: rest ++ right) := stops_cons.mpr (trimmed.first c rfl)
    rw [dropWhile_of_stops stops, trimEnd_append_blanks _ _ blankRight,
      trimEnd_of_last trimmed.last]

/-- Trimming leaves a text as it is that has no blank at its ends. -/
theorem trim_of_isTrimmed {text : List Char} (trimmed : IsTrimmed text) : trim text = text := by
  rw [trim, dropWhile_of_stops trimmed.first, trimEnd_of_last trimmed.last]

/-- Trimming leaves no blank at either end. -/
theorem isTrimmed_trim (text : List Char) : IsTrimmed (trim text) where
  first c begins := by
    obtain ⟨lost, whole⟩ := List.rdropWhile_prefix isBlank (l := text.dropWhile isBlank)
    have kept : ((text.dropWhile isBlank).rdropWhile isBlank).head? = some c := begins
    apply stops_dropWhile isBlank text c
    rw [← whole, Option.mem_def, List.head?_append, kept]
    rfl
  last c ends := by
    obtain ⟨nonempty, rfl⟩ := List.mem_getLast?_eq_getLast ends
    exact Bool.eq_false_iff.mpr
      (List.rdropWhile_last_not isBlank (text.dropWhile isBlank) nonempty)

/-- Trimming leaves nothing exactly of a text that has only blanks. -/
theorem trim_eq_nil_iff {text : List Char} : trim text = [] ↔ isBlankText text = true := by
  have ends : trim text = [] ↔ ∀ c ∈ text.dropWhile isBlank, isBlank c = true :=
    List.rdropWhile_eq_nil_iff
  rw [ends, isBlankText, List.all_eq_true]
  constructor
  · intro allBlank
    -- The first character that is left would be no blank, and yet be lost at the other end.
    rw [← List.dropWhile_eq_nil_iff]
    by_contra nonempty
    have blank := allBlank _ (List.head_mem nonempty)
    rw [List.head_dropWhile_not isBlank nonempty] at blank
    cases blank
  · intro blanks c mem
    exact blanks c ((List.dropWhile_sublist isBlank).subset mem)

end PromptDiagram.Text
