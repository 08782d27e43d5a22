import PromptDiagram.Proofs.Notation.Scanning
import PromptDiagram.Proofs.Notation.Sections

/-!
# Texts read in parts

A semicolon cuts the edges of a text in two: no edge reaches over it, so the edges before it and
those behind it are read apart. A closing parenthesis cuts the nodes. No part of an item that is
unfinished at the cut is finished behind it, and nothing that is finished before it changes.
-/

namespace PromptDiagram.Notation

open Text

variable {α : Type} {back : List Char}

/-- What a reader has found, with more text behind what it left over. -/
def followedBy (back : List Char) (found : α × List Char) : α × List Char :=
  (found.1, found.2 ++ back)

/-! ## Items -/

/-- The items of a text and of what follows it are read apart, if what follows changes no item of
the text nor of any part of it that the search goes on with. -/
theorem items_seam {item? : List Char → Option (α × List Char)} (shortens : Shortens item?)
    (Part : List Char → Prop) (tail : ∀ {c rest}, Part (c :: rest) → Part rest)
    (left : ∀ {text item after}, Part text → item? text = some (item, after) → Part after)
    (reads : ∀ {text}, Part text → text ≠ [] →
      item? (text ++ back) = (item? text).map (followedBy back))
    {text : List Char} (part : Part text) :
    items item? (text ++ back) = items item? text ++ items item? back := by
  -- An item may use up any number of characters, so the induction is on the length of the text.
  induction length : text.length using Nat.strongRecOn generalizing text with
  | ind n ih =>
    subst length
    cases text with
    | nil => rfl
    | cons c rest =>
      have read := reads part (List.cons_ne_nil c rest)
      cases found : item? (c :: rest) with
      | none =>
        rw [found, List.cons_append] at read
        rw [items_of_none found, List.cons_append, items_of_none read]
        exact ih rest.length (Nat.lt_succ_self _) (tail part) rfl
      | some item =>
        obtain ⟨item, after⟩ := item
        rw [found] at read
        rw [items_of_read shortens found, items_of_read shortens read, List.cons_append,
          ih after.length (shortens found) (left part found) rfl]

/-! ## Edges -/

/-- A word is read alike before what does not carry it on. -/
theorem word?_followedBy (text : List Char) (stops : Stops isWord back) :
    word? (text ++ back) = (word? text).map (followedBy back) := by
  simp only [word?, takeWhile_append_of_stops text stops, dropWhile_append_of_stops text stops]
  cases text.takeWhile isWord <;> rfl

/-- A mark is read alike before a character that it does not have. -/
theorem skip?_followedBy {mark : List Char} {c : Char} (outside : c ∉ mark) (text : List Char) :
    skip? mark (text ++ c :: back) = (skip? mark text).map (· ++ c :: back) := by
  induction mark generalizing text with
  | nil => rfl
  | cons d mark ih =>
    obtain ⟨other, others⟩ : c ≠ d ∧ c ∉ mark := by simpa using outside
    cases text with
    | nil => simp [skip?, other.symm]
    | cons e text =>
      simp only [List.cons_append, skip?]
      split
      · exact ih others text
      · rfl

/-- The label of an edge is read alike before a character that ends it. -/
theorem label?_followedBy (text : List Char) (visible : Stops isBlank back)
    (ends : Stops inLabel back) :
    label? (text ++ back) = (label? text).map (followedBy back) := by
  simp only [label?, skipBlanks, takeWhile_append_of_stops text visible,
    dropWhile_append_of_stops text visible, takeWhile_append_of_stops _ ends,
    dropWhile_append_of_stops _ ends]
  cases (text.dropWhile isBlank).takeWhile inLabel with
  | nil => cases (text.takeWhile isBlank).any inLabel <;> rfl
  | cons c label => rfl

/-- An edge is read alike before a semicolon, and none is read that needs what follows it. -/
theorem edge?_followedBy (text back : List Char) :
    edge? (text ++ ';' :: back) = (edge? text).map (followedBy (';' :: back)) := by
  have word : Stops isWord (';' :: back) := stops_cons.mpr (by decide)
  have blank : Stops isBlank (';' :: back) := stops_cons.mpr (by decide)
  have label : Stops inLabel (';' :: back) := stops_cons.mpr (by decide)
  have skipped (text : List Char) :
      skipBlanks (text ++ ';' :: back) = skipBlanks text ++ ';' :: back :=
    dropWhile_append_of_stops text blank
  simp only [edge?, Option.bind_eq_bind, word?_followedBy text word]
  cases word? text with
  | none => rfl
  | some source =>
    simp only [Option.map_some, Option.bind_some, followedBy, skipped,
      skip?_followedBy (show ';' ∉ ['-', '>'] by decide)]
    cases skip? ['-', '>'] (skipBlanks source.2) with
    | none => rfl
    | some rest =>
      simp only [Option.map_some, Option.bind_some, skipped, word?_followedBy _ word]
      cases word? (skipBlanks rest) with
      | none => rfl
      | some target =>
        simp only [Option.map_some, Option.bind_some, followedBy, skipped,
          skip?_followedBy (show ';' ∉ [':'] by decide)]
        cases skip? [':'] (skipBlanks target.2) with
        | none => rfl
        | some rest =>
          simp only [Option.map_some, Option.bind_some, label?_followedBy rest blank label]
          cases label? rest <;> rfl

/-- The edges of texts with a semicolon between them are those of each. -/
theorem items_edge?_semicolon (text back : List Char) :
    items edge? (text ++ ';' :: back) = items edge? text ++ items edge? back := by
  have cut : items edge? (';' :: back) = items edge? back :=
    items_of_none (edge?_beginsWithWord ';' back (by decide))
  rw [items_seam edge?_shortens (fun _ => True) (fun _ => trivial) (fun _ _ => trivial)
    (fun _ _ => edge?_followedBy _ back) trivial, cut]

/-! ## Nodes -/

/-- A text with a closing parenthesis at its end, if it is not empty. -/
def IsClosed (text : List Char) : Prop :=
  text ≠ [] → [')'] <:+ text

/-- What is left over of a closed text is closed. -/
theorem IsClosed.left {text after : List Char} (closed : IsClosed text) (suffix : after <:+ text) :
    IsClosed after := by
  intro nonempty
  have whole : text ≠ [] := by
    rintro rfl
    exact nonempty (List.suffix_nil.mp suffix)
  exact List.suffix_of_suffix_length_le (closed whole) suffix (List.length_pos_iff.mpr nonempty)

/-- A mark is followed by what is left over. -/
theorem skip?_suffix {mark text after : List Char} (read : skip? mark text = some after) :
    after <:+ text := by
  induction mark generalizing text with
  | nil =>
    obtain rfl : text = after := by simpa [skip?] using read
    exact List.suffix_refl text
  | cons c mark ih =>
    cases text with
    | nil => simp [skip?] at read
    | cons d text =>
      simp only [skip?] at read
      split at read
      · exact (ih read).trans (List.suffix_cons d text)
      · simp at read

/-- What stands before a closing parenthesis is followed by what is left over. -/
theorem upToParenthesis?_suffix {text inside after : List Char}
    (read : upToParenthesis? text = some (inside, after)) : after <:+ text := by
  induction text generalizing inside with
  | nil => simp [upToParenthesis?] at read
  | cons c rest ih =>
    simp only [upToParenthesis?] at read
    split at read
    · obtain ⟨-, rfl⟩ : [] = inside ∧ rest = after := by simpa using read
      exact List.suffix_cons c rest
    · obtain ⟨⟨inner, behind⟩, found, same⟩ := Option.map_eq_some_iff.1 read
      obtain ⟨-, rfl⟩ : c :: inner = inside ∧ behind = after := by simpa using same
      exact (ih found).trans (List.suffix_cons c rest)

/-- A word is followed by what is left over. -/
theorem word?_suffix {text after : List Char} {word : String}
    (read : word? text = some (word, after)) : after <:+ text := by
  unfold word? at read
  split at read
  · simp at read
  · obtain ⟨-, rfl⟩ : _ ∧ text.dropWhile isWord = after := by simpa using read
    exact List.dropWhile_suffix isWord

/-- A node is followed by what is left over. -/
theorem node?_suffix {text after : List Char} {node : Node}
    (read : node? text = some (node, after)) : after <:+ text := by
  simp only [node?, Option.bind_eq_bind, Option.bind_eq_some_iff, Prod.exists] at read
  obtain ⟨id, behindId, word, inside, mark, label, behind, closed, same⟩ := read
  obtain ⟨-, rfl⟩ : _ ∧ behind = after := by simpa using same
  exact (upToParenthesis?_suffix closed).trans ((skip?_suffix mark).trans (word?_suffix word))

/-- What stands before a closing parenthesis is read alike whatever follows that. -/
theorem upToParenthesis?_followedBy (front rest back : List Char) :
    upToParenthesis? (front ++ ')' :: (rest ++ back)) =
      (upToParenthesis? (front ++ ')' :: rest)).map (followedBy back) := by
  induction front with
  | nil => rfl
  | cons c front ih =>
    simp only [List.cons_append, upToParenthesis?]
    split
    · simp [followedBy]
    · rw [ih]
      cases upToParenthesis? (front ++ ')' :: rest) <;> rfl

/-- A node is read alike in a text with a closing parenthesis, whatever follows the text. -/
theorem node?_followedBy (front rest back : List Char) :
    node? (front ++ ')' :: (rest ++ back)) =
      (node? (front ++ ')' :: rest)).map (followedBy back) := by
  have word (behind : List Char) : Stops isWord (')' :: behind) := stops_cons.mpr (by decide)
  simp only [node?, Option.bind_eq_bind, word?_followedBy front (word _)]
  cases word? front with
  | none => rfl
  | some id =>
    simp only [Option.map_some, Option.bind_some, followedBy,
      skip?_followedBy (show ')' ∉ ['('] by decide)]
    cases skip? ['('] id.2 with
    | none => rfl
    | some inside =>
      simp only [Option.map_some, Option.bind_some, upToParenthesis?_followedBy]
      cases upToParenthesis? (inside ++ ')' :: rest) <;> rfl

/-- The nodes of a text that a closing parenthesis ends and those of what follows it are read
apart. -/
theorem items_node?_parenthesis (text back : List Char) :
    items node? (text ++ ')' :: back) = items node? (text ++ [')']) ++ items node? back := by
  have closed : IsClosed (text ++ [')']) := fun _ => List.suffix_append text [')']
  have parts : text ++ ')' :: back = text ++ [')'] ++ back := by simp
  rw [parts]
  refine items_seam node?_shortens IsClosed (fun closed => closed.left (List.suffix_cons _ _))
    (fun closed read => closed.left (node?_suffix read)) ?_ closed
  intro part closed nonempty
  obtain ⟨front, rfl⟩ := closed nonempty
  simpa using node?_followedBy front [] back

/-! ## Graphs -/

/-- What follows the token of the edges at the beginning of a text is their section. -/
theorem edgesSection_opening (text : List Char) : edgesSection (edgesOpening ++ text) = text := by
  have read : afterToken? edgesToken (edgesOpening ++ text) = some text :=
    afterToken?_eq_some_iff.mpr ⟨edgesOpening, rfl, by decide⟩
  rw [edgesSection, afterFirst?_of_read read]
  rfl

/-- What follows the token of the nodes at the beginning of a text is their section, up to the
token of the edges. -/
theorem nodesSection_opening (text : List Char) :
    nodesSection (nodesOpening ++ text) = beforeFirst edgesToken text := by
  have read : afterToken? nodesToken (nodesOpening ++ text) = some text :=
    afterToken?_eq_some_iff.mpr ⟨nodesOpening, rfl, by decide⟩
  rw [nodesSection, afterFirst?_of_read read]

/-- A closing parenthesis behind a text without the token of the edges does not complete it. -/
theorem beforeFirst_parenthesis {text : List Char} (tokenless : ¬Holds edgesToken text)
    (back : List Char) :
    beforeFirst edgesToken (text ++ ')' :: back) = text ++ ')' :: beforeFirst edgesToken back := by
  have clear : Clear edgesToken text (')' :: back) :=
    clear_of_not_holds tokenless (by decide)
  have mark : Clear edgesToken [')'] back := clear_of_fold_ne fun c mem => by
    rw [List.mem_singleton.mp mem]
    decide
  rw [beforeFirst_append clear, show ')' :: back = [')'] ++ back from rfl, beforeFirst_append mark]
  rfl

/-- A text in the notation is read in parts: the edges on both sides of a semicolon are those of
each side, and the nodes on both sides of a closing parenthesis are those of each side, provided
that the section of the nodes does not end before the parenthesis. -/
theorem graph_in_parts :
    (∀ text back, (graph (edgesOpening ++ text ++ ';' :: back)).edges =
      (graph (edgesOpening ++ text)).edges ++ (graph (edgesOpening ++ back)).edges) ∧
    (∀ text back, ¬Holds edgesToken text →
      (graph (nodesOpening ++ text ++ ')' :: back)).nodes =
        (graph (nodesOpening ++ text ++ [')'])).nodes ++
          (graph (nodesOpening ++ back)).nodes) := by
  constructor
  · intro text back
    simp only [graph, List.append_assoc, edgesSection_opening]
    exact items_edge?_semicolon text back
  · intro text back tokenless
    simp only [graph, List.append_assoc, nodesSection_opening, beforeFirst_parenthesis tokenless]
    exact items_node?_parenthesis text (beforeFirst edgesToken back)

/-- The nodes on both sides of a parenthesis are all read where another one is left open before it,
a token of the nodes stands within a label, and the section ends behind the cut. -/
theorem graph_in_parts_unbalanced :
    ¬Holds edgesToken "a(x) b((nodes: y".toList ∧
    (graph (nodesOpening ++ "a(x) b((nodes: y".toList ++
      ')' :: "z) c( 1 )\nEDGES: d(2)".toList)).nodes =
      [{ id := "a", label := some "x" }, { id := "b", label := some "(nodes: y" },
        { id := "c", label := some "1" }] := by
  have tokenless : ¬Holds edgesToken "a(x) b((nodes: y".toList := by decide
  have front : (graph (nodesOpening ++ "a(x) b((nodes: y".toList ++ [')'])).nodes =
      [{ id := "a", label := some "x" }, { id := "b", label := some "(nodes: y" }] := by
    decide +kernel
  have back : (graph (nodesOpening ++ "z) c( 1 )\nEDGES: d(2)".toList)).nodes =
      [{ id := "c", label := some "1" }] := by
    decide +kernel
  refine ⟨tokenless, ?_⟩
  rw [graph_in_parts.2 _ _ tokenless, front, back]
  rfl

end PromptDiagram.Notation
