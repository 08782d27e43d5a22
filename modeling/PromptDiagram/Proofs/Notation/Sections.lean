import PromptDiagram.Proofs.Notation.Spelling

/-!
# Finding section tokens

A search for a token passes over every part of a text in which no occurrence of it begins. An
occurrence cannot reach over a character that the token does not have, so a part that holds no
token and is followed by such a character is passed over as a whole.
-/

namespace PromptDiagram.Notation

open Text

variable {token front back after : List Char}

/-- A token is read off a text exactly when the text begins with a spelling of it. -/
theorem afterToken?_eq_some_iff {text : List Char} :
    afterToken? token text = some after ↔
      ∃ found, text = found ++ after ∧ found.map fold = token := by
  induction token generalizing text with
  | nil => simp [afterToken?]
  | cons letter token ih =>
    cases text with
    | nil => simp [afterToken?]
    | cons c text =>
      simp only [afterToken?]
      constructor
      · intro read
        split at read
        · rename_i same
          obtain ⟨found, rfl, spells⟩ := ih.mp read
          exact ⟨c :: found, rfl, by simpa [spells] using same⟩
        · simp at read
      · rintro ⟨found, parts, spells⟩
        cases found with
        | nil => simp at spells
        | cons d found =>
          obtain ⟨rfl, rfl⟩ : c = d ∧ text = found ++ after := by simpa using parts
          obtain ⟨same, rest⟩ : fold c = letter ∧ found.map fold = token := by simpa using spells
          rw [if_pos (by simpa using same)]
          exact ih.mpr ⟨found, rfl, rest⟩

/-- No occurrence of a token begins in the first part of a text. -/
def Clear (token front back : List Char) : Prop :=
  ∀ before rest, front = before ++ rest → rest ≠ [] → afterToken? token (rest ++ back) = none

/-- Nothing begins in an empty part. -/
theorem clear_nil : Clear token [] back := by
  intro before rest parts nonempty
  have : rest = [] := (List.append_eq_nil_iff.mp parts.symm).2
  exact absurd this nonempty

/-- A part is clear when its first character begins no occurrence and the rest of it is clear. -/
theorem clear_cons {c : Char} (first : afterToken? token (c :: (front ++ back)) = none)
    (others : Clear token front back) : Clear token (c :: front) back := by
  intro before rest parts nonempty
  cases before with
  | nil =>
    obtain rfl : c :: front = rest := parts
    exact first
  | cons d before => exact others before rest (List.cons.inj parts).2 nonempty

/-- Parts are clear together when each is clear before what follows it. -/
theorem clear_append {middle : List Char} (first : Clear token front (middle ++ back))
    (second : Clear token middle back) : Clear token (front ++ middle) back := by
  induction front with
  | nil => exact second
  | cons c front ih =>
    refine clear_cons ?_ (ih ?_)
    · simpa using first [] (c :: front) rfl (by simp)
    · intro before rest parts nonempty
      exact first (c :: before) rest (by simp [parts]) nonempty

/-- A part without the first letter of a token is clear. -/
theorem clear_of_fold_ne {letter : Char} (other : ∀ c ∈ front, fold c ≠ letter) :
    Clear (letter :: token) front back := by
  induction front with
  | nil => exact clear_nil
  | cons c front ih =>
    refine clear_cons ?_ (ih fun d mem => other d (List.mem_cons_of_mem c mem))
    rw [afterToken?, if_neg (by simpa using other c List.mem_cons_self)]

/-- A part that holds no token is clear before a character that the token does not have. -/
theorem clear_of_not_holds {c : Char} (tokenless : ¬Holds token front) (stops : fold c ∉ token) :
    Clear token front (c :: back) := by
  intro before rest parts _
  rw [← Option.not_isSome_iff_eq_none, Option.isSome_iff_exists]
  rintro ⟨after, read⟩
  obtain ⟨found, spelled, spells⟩ := afterToken?_eq_some_iff.mp read
  rcases List.append_eq_append_iff.mp spelled with ⟨more, rfl, reaches⟩ | ⟨more, rfl, -⟩
  · -- The occurrence is longer than the part, so it has the character behind the part.
    cases more with
    | nil => exact tokenless ⟨before, rest, [], by simpa using parts, by simpa using spells⟩
    | cons d more =>
      obtain ⟨rfl, -⟩ : c = d ∧ _ := by simpa using reaches
      exact stops (spells ▸ by simp)
  · exact tokenless ⟨before, found, more, by simpa using parts, spells⟩

/-- A token at the beginning of a text is the first one. -/
theorem afterFirst?_of_read {text : List Char} (read : afterToken? token text = some after) :
    afterFirst? token text = some after := by
  cases text with
  | nil => exact read
  | cons c rest => simp only [afterFirst?, read]

/-- Nothing precedes a token at the beginning of a text. -/
theorem beforeFirst_of_read {text : List Char} (read : afterToken? token text = some after) :
    beforeFirst token text = [] := by
  cases text with
  | nil => rfl
  | cons c rest => simp only [beforeFirst, read]

/-- The search for what follows a token passes over a clear part. -/
theorem afterFirst?_append (clear : Clear token front back) :
    afterFirst? token (front ++ back) = afterFirst? token back := by
  induction front with
  | nil => rfl
  | cons c front ih =>
    have here : afterToken? token (c :: (front ++ back)) = none :=
      clear [] (c :: front) rfl (by simp)
    have behind : Clear token front back := fun before rest parts =>
      clear (c :: before) rest (by simp [parts])
    simp only [List.cons_append, afterFirst?, here]
    exact ih behind

/-- The search for what precedes a token keeps a clear part. -/
theorem beforeFirst_append (clear : Clear token front back) :
    beforeFirst token (front ++ back) = front ++ beforeFirst token back := by
  induction front with
  | nil => rfl
  | cons c front ih =>
    have here : afterToken? token (c :: (front ++ back)) = none :=
      clear [] (c :: front) rfl (by simp)
    have behind : Clear token front back := fun before rest parts =>
      clear (c :: before) rest (by simp [parts])
    simp only [List.cons_append, beforeFirst, here]
    rw [ih behind]

/-- The search for what follows a token succeeds exactly in the texts that hold it. -/
theorem isSome_afterFirst?_iff {text : List Char} :
    (afterFirst? token text).isSome ↔ Holds token text := by
  induction text with
  | nil =>
    cases token with
    | nil => exact ⟨fun _ => ⟨[], [], [], rfl, rfl⟩, fun _ => rfl⟩
    | cons letter token => simp [afterFirst?, afterToken?, Holds]
  | cons c rest ih =>
    cases read : afterToken? token (c :: rest) with
    | some after =>
      obtain ⟨found, parts, spells⟩ := afterToken?_eq_some_iff.mp read
      simp only [afterFirst?, read, Option.isSome_some, true_iff]
      exact ⟨[], found, after, by simpa using parts, spells⟩
    | none =>
      simp only [afterFirst?, read, ih]
      constructor
      · rintro ⟨front, found, back, rfl, spells⟩
        exact ⟨c :: front, found, back, rfl, spells⟩
      · rintro ⟨front, found, back, parts, spells⟩
        cases front with
        | nil =>
          have here : afterToken? token (c :: rest) = some back :=
            afterToken?_eq_some_iff.mpr ⟨found, parts, spells⟩
          simp [read] at here
        | cons d front => exact ⟨front, found, back, (List.cons.inj parts).2, spells⟩

instance (token text : List Char) : Decidable (Holds token text) :=
  decidable_of_iff _ isSome_afterFirst?_iff

end PromptDiagram.Notation
