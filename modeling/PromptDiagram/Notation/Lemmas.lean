import PromptDiagram.Notation

/-!
# Lemmas on the prompt notation

Nodes and edges use up text, so the items of a text are found place by place.
-/

namespace PromptDiagram.Notation

open Text

/-- What satisfies a condition and what follows it make up the text. -/
theorem length_takeWhile_add_dropWhile (p : Char → Bool) (text : List Char) :
    (text.takeWhile p).length + (text.dropWhile p).length = text.length := by
  rw [← List.length_append, List.takeWhile_append_dropWhile]

/-- A word uses up text. -/
theorem word?_shortens : Shortens word? := by
  intro text word after read
  have parts := length_takeWhile_add_dropWhile isWord text
  unfold word? at read
  split at read
  · simp at read
  · rename_i nonempty
    obtain ⟨-, rfl⟩ : _ ∧ text.dropWhile isWord = after := by simpa using read
    have := List.length_pos_iff.2 nonempty
    omega

/-- Passing over blanks adds no text. -/
theorem length_skipBlanks_le (text : List Char) : (skipBlanks text).length ≤ text.length :=
  (List.dropWhile_sublist _).length_le

/-- Passing over a mark adds no text. -/
theorem length_skip?_le {mark text after : List Char} (read : skip? mark text = some after) :
    after.length ≤ text.length := by
  induction mark generalizing text with
  | nil => simp_all [skip?]
  | cons c mark ih =>
    cases text with
    | nil => simp [skip?] at read
    | cons d text =>
      simp only [skip?] at read
      split at read
      · have := ih read
        simp only [List.length_cons]
        omega
      · simp at read

/-- What follows a closing parenthesis is shorter than the text. -/
theorem upToParenthesis?_shortens : Shortens upToParenthesis? := by
  intro text inside after read
  induction text generalizing inside with
  | nil => simp [upToParenthesis?] at read
  | cons c rest ih =>
    simp only [upToParenthesis?] at read
    split at read
    · obtain ⟨-, rfl⟩ : _ ∧ rest = after := by simpa using read
      simp
    · obtain ⟨⟨inner, behind⟩, found, same⟩ := Option.map_eq_some_iff.1 read
      obtain ⟨-, rfl⟩ : _ ∧ behind = after := by simpa using same
      have := ih found
      simp only [List.length_cons]
      omega

/-- A node uses up text. -/
theorem node?_shortens : Shortens node? := by
  intro text node after read
  simp only [node?, Option.bind_eq_bind, Option.bind_eq_some_iff, Prod.exists] at read
  obtain ⟨id, behindId, word, inside, mark, label, behind, closed, same⟩ := read
  have := word?_shortens word
  have := length_skip?_le mark
  have := upToParenthesis?_shortens closed
  obtain ⟨-, rfl⟩ : _ ∧ behind = after := by simpa using same
  omega

/-- The label of an edge adds no text. -/
theorem length_label?_le {text label after : List Char}
    (read : label? text = some (label, after)) : after.length ≤ text.length := by
  have blanks := length_skipBlanks_le text
  have parts := length_takeWhile_add_dropWhile inLabel (skipBlanks text)
  simp only [label?] at read
  split at read
  · split at read <;> simp_all
  · obtain ⟨-, rfl⟩ : _ ∧ (skipBlanks text).dropWhile inLabel = after := by simpa using read
    omega

/-- An edge uses up text. -/
theorem edge?_shortens : Shortens edge? := by
  intro text edge after read
  simp only [edge?, Option.bind_eq_bind, Option.bind_eq_some_iff, Prod.exists] at read
  obtain ⟨source, behindSource, first, arrow, mark, target, behindTarget, second, colon, mark',
    label, behind, labelled, same⟩ := read
  have := word?_shortens first
  have := length_skipBlanks_le behindSource
  have := length_skip?_le mark
  have := length_skipBlanks_le arrow
  have := word?_shortens second
  have := length_skipBlanks_le behindTarget
  have := length_skip?_le mark'
  have := length_label?_le labelled
  obtain ⟨-, rfl⟩ : _ ∧ behind = after := by simpa using same
  omega

end PromptDiagram.Notation
