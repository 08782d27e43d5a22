import PromptDiagram.Notation.Lemmas
import PromptDiagram.Proofs.Notation.Spelling

/-!
# Reading spelled items

A spelled item is read as a whole wherever it stands, and what follows it is left as it is. What
stands between items begins with no word, so the search for items passes over it.
-/

namespace PromptDiagram.Notation

open Text

/-- A blank is no character of a word. -/
theorem not_isWord_of_isBlank {c : Char} (blank : isBlank c = true) : isWord c = false := by
  simp only [isBlank, Bool.or_eq_true, Bool.and_eq_true, decide_eq_true_eq, beq_iff_eq] at blank
  simp only [isWord, isLetter, isDigit, Bool.or_eq_false_iff, Bool.and_eq_false_iff,
    decide_eq_false_iff_not, beq_eq_false_iff_ne, ne_eq, Char.le_def, UInt32.le_iff_toNat_le,
    Char.ext_iff, ← UInt32.toNat_inj, Char.reduceVal, UInt32.reduceToNat, Char.toNat_val]
  omega

/-- A character of a word is no blank. -/
theorem not_isBlank_of_isWord {c : Char} (word : isWord c = true) : isBlank c = false := by
  cases blank : isBlank c with
  | false => rfl
  | true => simp [not_isWord_of_isBlank blank] at word

/-- A word is read as a whole where what follows does not carry it on. -/
theorem word?_append (word : Word) {rest : List Char} (stops : Stops isWord rest) :
    word? (word.chars ++ rest) = some (String.ofList word.chars, rest) := by
  rw [word?, takeWhile_run word.word stops, dropWhile_run word.word stops]
  cases chars : word.chars with
  | nil => exact absurd chars word.nonempty
  | cons c others => rfl

/-- Blanks are passed over up to a character that is none. -/
theorem skipBlanks_append (blanks : Blanks) {rest : List Char} (stops : Stops isBlank rest) :
    skipBlanks (blanks.chars ++ rest) = rest :=
  dropWhile_run blanks.blank stops

/-- Blanks, and whatever follows them that carries no word on, carry no word on. -/
theorem stops_blanks_append (blanks : Blanks) {rest : List Char} (stops : Stops isWord rest) :
    Stops isWord (blanks.chars ++ rest) := by
  cases chars : blanks.chars with
  | nil => exact stops
  | cons c others =>
    exact stops_cons.mpr (not_isWord_of_isBlank (blanks.blank c (by simp [chars])))

/-- A word carries no blanks on. -/
theorem stops_word_append (word : Word) (rest : List Char) :
    Stops isBlank (word.chars ++ rest) := by
  cases chars : word.chars with
  | nil => exact absurd chars word.nonempty
  | cons c others =>
    apply stops_cons.mpr
    apply Bool.eq_false_iff.mpr
    intro blank
    have inWord := word.word c (by simp [chars])
    simp [not_isWord_of_isBlank blank] at inWord

/-- A text without a closing parenthesis is read up to the one behind it. -/
theorem upToParenthesis?_append {inside : List Char} (unclosed : ')' ∉ inside) (rest : List Char) :
    upToParenthesis? (inside ++ ')' :: rest) = some (inside, rest) := by
  induction inside with
  | nil => simp [upToParenthesis?]
  | cons c inside ih =>
    obtain ⟨differs, others⟩ : ')' ≠ c ∧ ')' ∉ inside := by simpa using unclosed
    rw [List.cons_append, upToParenthesis?, if_neg (by simpa using differs.symm), ih others]
    rfl

/-- Nothing between the parentheses of a node closes them. -/
theorem not_mem_inside (spelling : NodeSpelling) : ')' ∉ spelling.inside := by
  have blank : isBlank ')' = false := by decide
  simp only [NodeSpelling.inside, List.mem_append, not_or]
  refine ⟨⟨fun mem => ?_, spelling.label.unclosed⟩, fun mem => ?_⟩
  · simp [spelling.left.blank _ mem] at blank
  · simp [spelling.right.blank _ mem] at blank

/-- A spelled node is read as it is meant. -/
theorem node?_append (spelling : NodeSpelling) (rest : List Char) :
    node? (spelling.item ++ rest) = some (spelling.node, rest) := by
  have mark : Stops isWord ('(' :: (spelling.inside ++ ')' :: rest)) := stops_cons.mpr (by decide)
  have label : trim spelling.inside = spelling.label.chars :=
    trim_padded spelling.left.blank spelling.label.trimmed spelling.right.blank
  simp only [NodeSpelling.item, List.append_assoc, List.cons_append, List.nil_append, node?,
    Option.bind_eq_bind]
  rw [word?_append _ mark]
  simp only [Option.bind_some, skip?, beq_self_eq_true, if_true]
  rw [upToParenthesis?_append (not_mem_inside spelling)]
  simp only [Option.bind_some, label]
  rfl

/-- The label of a spelled edge is read up to what ends it. -/
theorem label?_append (blanks : Blanks) (label : EdgeLabel) {rest : List Char}
    (stops : Stops inLabel rest) :
    label? (blanks.chars ++ (label.chars ++ rest)) = some (label.chars, rest) := by
  have behindBlanks : Stops isBlank (label.chars ++ rest) := by
    cases chars : label.chars with
    | nil => exact absurd chars label.nonempty
    | cons c others => exact stops_cons.mpr (label.trimmed.first c (by simp [chars]))
  simp only [label?]
  rw [skipBlanks_append blanks behindBlanks, takeWhile_run label.within stops,
    dropWhile_run label.within stops]
  cases chars : label.chars with
  | nil => exact absurd chars label.nonempty
  | cons c others => rfl

/-- A spelled edge is read as it is meant where what follows ends it. -/
theorem edge?_append (spelling : EdgeSpelling) {rest : List Char} (stops : Stops inLabel rest) :
    edge? (spelling.item ++ rest) = some (spelling.edge, rest) := by
  have arrow (behind : List Char) : Stops isBlank ('-' :: behind) := stops_cons.mpr (by decide)
  have colon (behind : List Char) : Stops isBlank (':' :: behind) := stops_cons.mpr (by decide)
  have arrowWord (behind : List Char) : Stops isWord ('-' :: behind) := stops_cons.mpr (by decide)
  have colonWord (behind : List Char) : Stops isWord (':' :: behind) := stops_cons.mpr (by decide)
  simp only [EdgeSpelling.item, List.append_assoc, List.cons_append, List.nil_append, edge?,
    Option.bind_eq_bind]
  rw [word?_append _ (stops_blanks_append _ (arrowWord _))]
  simp only [Option.bind_some]
  rw [skipBlanks_append _ (arrow _)]
  simp only [skip?, beq_self_eq_true, if_true, Option.bind_some]
  rw [skipBlanks_append _ (stops_word_append _ _),
    word?_append _ (stops_blanks_append _ (colonWord _))]
  simp only [Option.bind_some]
  rw [skipBlanks_append _ (colon _)]
  simp only [skip?, beq_self_eq_true, if_true, Option.bind_some]
  rw [label?_append _ _ stops]
  have trimmed : trim spelling.label.chars = spelling.label.chars :=
    trim_of_isTrimmed spelling.label.trimmed
  simp only [Option.bind_some, trimmed]
  rfl

/-! ## Between items -/

/-- Items of a kind that begin with words. -/
def BeginsWithWord {α : Type} (item? : List Char → Option (α × List Char)) : Prop :=
  ∀ c rest, isWord c = false → item? (c :: rest) = none

/-- Nodes begin with words. -/
theorem node?_beginsWithWord : BeginsWithWord node? := by
  intro c rest outside
  simp [node?, word?, outside]

/-- Edges begin with words. -/
theorem edge?_beginsWithWord : BeginsWithWord edge? := by
  intro c rest outside
  simp [edge?, word?, outside]

/-- Characters outside words hold no items and hide none behind them. -/
theorem items_append {α : Type} {item? : List Char → Option (α × List Char)}
    (words : BeginsWithWord item?) {front : List Char} (outside : ∀ c ∈ front, isWord c = false)
    (rest : List Char) : items item? (front ++ rest) = items item? rest := by
  induction front with
  | nil => rfl
  | cons c front ih =>
    rw [List.cons_append, items_of_none (words c _ (outside c List.mem_cons_self))]
    exact ih fun d mem => outside d (List.mem_cons_of_mem c mem)

/-- An item that is read off a text comes before the items of what it leaves. -/
theorem items_of_read {α : Type} {item? : List Char → Option (α × List Char)}
    (shortens : Shortens item?) {text after : List Char} {item : α}
    (read : item? text = some (item, after)) :
    items item? text = item :: items item? after := by
  cases text with
  | nil => exact absurd (shortens read) (Nat.not_lt_zero _)
  | cons c rest => exact items_of_some shortens read

end PromptDiagram.Notation
