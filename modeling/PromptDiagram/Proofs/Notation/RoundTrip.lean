import PromptDiagram.Proofs.Notation.Scanning
import PromptDiagram.Proofs.Notation.Sections

/-!
# Reading what is spelled

A text that spells a graph is read as that graph, with nothing lost, merged or moved, however its
author placed blanks and whatever the labels hold. A prompt that spells a node is sufficient.
-/

namespace PromptDiagram.Notation

open Text

/-! ## The items of the sections -/

/-- Blanks lie outside words. -/
theorem blanks_outside (blanks : Blanks) : ∀ c ∈ blanks.chars, isWord c = false :=
  fun c mem => not_isWord_of_isBlank (blanks.blank c mem)

/-- The nodes of a spelled section are those that it spells. -/
theorem items_nodesText (spelling : Spelling) :
    items node? spelling.nodesText = spelling.nodes.map NodeSpelling.node := by
  unfold Spelling.nodesText
  induction spelling.nodes with
  | nil =>
    simpa [items_nil] using
      items_append node?_beginsWithWord (blanks_outside spelling.beforeEdges) []
  | cons node nodes ih =>
    rw [List.flatMap_cons, NodeSpelling.text, List.append_assoc, List.append_assoc,
      items_append node?_beginsWithWord (blanks_outside node.before),
      items_of_read node?_shortens (node?_append node _), ih, List.map_cons]

/-- An ending is no part of a label, nor of a word. -/
theorem ending_outside (ending : Ending) :
    inLabel ending.char = false ∧ isWord ending.char = false := by
  cases ending <;> decide

/-- The edges of a spelled section are those that it spells. -/
theorem items_edgesText (spelling : Spelling) :
    items edge? spelling.edgesText =
      (spelling.edges.map Prod.fst ++ spelling.last.toList).map EdgeSpelling.edge := by
  unfold Spelling.edgesText
  induction spelling.edges with
  | nil =>
    cases spelling.last with
    | none => rfl
    | some edge =>
      have read := edge?_append edge (stops_nil inLabel)
      rw [List.append_nil] at read
      simp only [List.flatMap_nil, List.nil_append, Option.toList_some, List.flatMap_singleton,
        List.map_nil, List.map_cons, EdgeSpelling.text]
      rw [items_append edge?_beginsWithWord (blanks_outside edge.before),
        items_of_read edge?_shortens read, items_nil]
  | cons ended edges ih =>
    obtain ⟨edge, ending⟩ := ended
    obtain ⟨endsLabel, endsWord⟩ := ending_outside ending
    simp only [List.flatMap_cons, endedText, EdgeSpelling.text, List.append_assoc,
      List.cons_append, List.nil_append, List.map_cons]
    rw [items_append edge?_beginsWithWord (blanks_outside edge.before),
      items_of_read edge?_shortens (edge?_append edge (stops_cons.mpr endsLabel)),
      items_of_none (edge?_beginsWithWord _ _ endsWord)]
    exact congrArg (edge.edge :: ·) (by simpa using ih)

/-! ## The sections -/

/-- Blanks are folded to themselves. -/
theorem fold_of_isBlank {c : Char} (blank : isBlank c = true) : fold c = c := by
  simp only [isBlank, Bool.or_eq_true, Bool.and_eq_true, decide_eq_true_eq, beq_iff_eq] at blank
  have notLong : c ≠ 'ſ' := by
    rintro rfl
    revert blank
    decide
  have notUpper : ¬('A' ≤ c ∧ c ≤ 'Z') := by
    rintro ⟨above, below⟩
    have above : 65 ≤ c.toNat := above
    have below : c.toNat ≤ 90 := below
    omega
  rw [fold, if_neg (by simpa using notLong), lower, if_neg notUpper]

/-- The token that opens the edges has no blank. -/
theorem fold_not_mem_of_isBlank {c : Char} (blank : isBlank c = true) : fold c ∉ edgesToken := by
  rw [fold_of_isBlank blank]
  have letters : ∀ letter ∈ edgesToken, isBlank letter = false := by
    simp [edgesToken, isBlank]
  intro mem
  simp [letters c mem] at blank

/-- No character but the colon is folded to it. -/
theorem eq_colon_of_fold {c : Char} (colon : fold c = ':') : c = ':' := by
  unfold fold at colon
  split at colon
  · exact absurd colon (by decide)
  · unfold lower at colon
    split at colon
    · rename_i upper
      have above : 65 ≤ c.toNat := upper.1
      have below : c.toNat ≤ 90 := upper.2
      have value : (Char.ofNat (c.toNat + 32)).toNat = 58 := by rw [colon]; rfl
      rw [toNat_ofNat (.inl (by omega))] at value
      omega
    · exact colon

/-- A text without a colon holds no token that opens the edges. -/
theorem not_holds_of_not_mem {text : List Char} (noColon : ':' ∉ text) :
    ¬Holds edgesToken text := by
  rintro ⟨front, found, back, rfl, spells⟩
  have mem : ':' ∈ found.map fold := by rw [spells]; decide
  obtain ⟨c, mem, colon⟩ := List.mem_map.mp mem
  obtain rfl := eq_colon_of_fold colon
  exact noColon (by simp [mem])

/-- No token that opens the edges begins within blanks. -/
theorem clear_blanks (blanks : Blanks) (back : List Char) :
    Clear edgesToken blanks.chars back :=
  clear_of_fold_ne fun c mem letter =>
    fold_not_mem_of_isBlank (blanks.blank c mem) (by rw [letter]; decide)

/-- No token that opens the edges begins within a word that a parenthesis follows. -/
theorem clear_word (word : Word) (back : List Char) :
    Clear edgesToken word.chars ('(' :: back) := by
  refine clear_of_not_holds (not_holds_of_not_mem fun mem => ?_) (by decide)
  have colon := word.word ':' mem
  exact absurd colon (by decide)

/-- No token that opens the edges begins within the label of a node, blanks and a parenthesis
behind it. -/
theorem clear_label (label : NodeLabel) (blanks : Blanks) (back : List Char) :
    Clear edgesToken label.chars (blanks.chars ++ ')' :: back) := by
  cases chars : blanks.chars with
  | nil => exact clear_of_not_holds label.tokenless (by decide)
  | cons c others =>
    exact clear_of_not_holds label.tokenless
      (fold_not_mem_of_isBlank (blanks.blank c (by simp [chars])))

/-- No token that opens the edges begins within a spelled node. -/
theorem clear_node (node : NodeSpelling) (back : List Char) :
    Clear edgesToken node.text back := by
  have mark (c : Char) (other : fold c ≠ 'e') (back : List Char) : Clear edgesToken [c] back :=
    clear_of_fold_ne (by simpa using other)
  have inside : Clear edgesToken (node.left.chars ++ node.label.chars ++ node.right.chars)
      (')' :: back) :=
    clear_append
      (clear_append (clear_blanks _ _) (clear_label node.label node.right back))
      (clear_blanks _ _)
  have marked : Clear edgesToken (['('] ++ (node.inside ++ [')'])) back :=
    clear_append (mark '(' (by decide) _) (clear_append inside (mark ')' (by decide) _))
  exact clear_append (clear_blanks _ _) (clear_append (clear_word node.id _) marked)

/-- No token that opens the edges begins within the spelled section of nodes. -/
theorem clear_nodesText (spelling : Spelling) (back : List Char) :
    Clear edgesToken spelling.nodesText back := by
  refine clear_append ?_ (clear_blanks _ _)
  induction spelling.nodes with
  | nil => exact clear_nil
  | cons node nodes ih => exact clear_append (clear_node node _) ih

/-- No token that opens the edges begins within the one that opens the nodes. -/
theorem clear_nodesOpening (back : List Char) : Clear edgesToken nodesOpening back := by
  unfold nodesOpening
  repeat refine clear_cons (by simp [afterToken?, edgesToken, fold, lower]) ?_
  exact clear_nil

/-- The token that opens the edges is read where it is written. -/
theorem afterToken?_edgesOpening (back : List Char) :
    afterToken? edgesToken (edgesOpening ++ back) = some back :=
  afterToken?_eq_some_iff.mpr ⟨edgesOpening, rfl, by decide⟩

/-- The nodes of a spelled text are looked for in what stands between its tokens. -/
theorem nodesSection_text (spelling : Spelling) :
    nodesSection spelling.text = spelling.nodesText := by
  have opening : afterFirst? nodesToken spelling.text =
      some (spelling.nodesText ++ (edgesOpening ++ spelling.edgesText)) :=
    afterFirst?_of_read
      (afterToken?_eq_some_iff.mpr ⟨nodesOpening, by simp [Spelling.text], by decide⟩)
  simp only [nodesSection, opening]
  rw [beforeFirst_append (clear_nodesText _ _),
    beforeFirst_of_read (afterToken?_edgesOpening _), List.append_nil]

/-- The first token that opens the edges of a spelled text is the one that is written there. -/
theorem afterFirst?_text (spelling : Spelling) :
    afterFirst? edgesToken spelling.text = some spelling.edgesText := by
  rw [Spelling.text, List.append_assoc, List.append_assoc,
    afterFirst?_append (clear_nodesOpening _), afterFirst?_append (clear_nodesText _ _)]
  exact afterFirst?_of_read (afterToken?_edgesOpening _)

/-! ## Graphs -/

/-- A spelled text reads as the graph that it spells. -/
theorem graph_text (spelling : Spelling) : graph spelling.text = spelling.graph := by
  have edges : edgesSection spelling.text = spelling.edgesText := by
    rw [edgesSection, afterFirst?_text, Option.getD_some]
  rw [graph, nodesSection_text, edges, items_nodesText, items_edgesText]
  rfl

/-- Whatever blanks and labels a text holds, it reads as exactly the graph that it spells, and a
prompt that spells a node is sufficient. -/
theorem read_spelled (spelling : Spelling) :
    graph spelling.text = spelling.graph ∧
      (spelling.nodes ≠ [] →
        read (String.ofList spelling.text) = .sufficient spelling.graph) := by
  refine ⟨graph_text spelling, fun nonempty => ?_⟩
  have nodes : spelling.graph.hasNodes = true := by
    cases written : spelling.nodes with
    | nil => exact absurd written nonempty
    | cons node nodes => simp [Graph.hasNodes, Spelling.graph, written]
  have token : hasEdgesToken spelling.text = true := by
    rw [hasEdgesToken, afterFirst?_text, Option.isSome_some]
  simp only [read, String.toList_ofList]
  rw [graph_text, nodes, token]
  simp

/-- A spelling whose labels hold marks of the notation, and whose last edge the text ends. -/
def markedSpelling : Spelling where
  nodes := [{
    before := ⟨[' '], List.all_eq_true.mp rfl⟩
    id := ⟨['a', '_', '1'], by decide, List.all_eq_true.mp rfl⟩
    left := ⟨['\n', ' '], List.all_eq_true.mp rfl⟩
    label := ⟨['N', 'o', 'd', 'e', 's', ':', '-', '>', '('], ⟨by simp [isBlank], by simp [isBlank]⟩,
      by decide, by decide⟩
    right := ⟨['\t'], List.all_eq_true.mp rfl⟩ }]
  beforeEdges := ⟨['\r', '\n'], List.all_eq_true.mp rfl⟩
  edges := []
  last := some {
    before := ⟨[], List.all_eq_true.mp rfl⟩
    source := ⟨['b'], by decide, List.all_eq_true.mp rfl⟩
    beforeArrow := ⟨['\n'], List.all_eq_true.mp rfl⟩
    afterArrow := ⟨[], List.all_eq_true.mp rfl⟩
    target := ⟨['a', '_', '1'], by decide, List.all_eq_true.mp rfl⟩
    beforeColon := ⟨[' '], List.all_eq_true.mp rfl⟩
    afterColon := ⟨['\n', ' '], List.all_eq_true.mp rfl⟩
    label := ⟨['x', ' ', ':', ')'], by decide, ⟨by simp [isBlank], by simp [isBlank]⟩,
      List.all_eq_true.mp rfl⟩ }

/-- Marks of the notation within labels do not end them. -/
theorem read_markedSpelling :
    markedSpelling.nodes ≠ [] ∧
      read "NODES: a_1(\n Nodes:->(\t)\r\nEDGES:b\n->a_1 :\n x :)" =
        .sufficient ⟨[{ id := "a_1", label := some "Nodes:->(" }],
          [{ source := "b", target := "a_1", label := some "x :)" }]⟩ :=
  ⟨by simp [markedSpelling], (read_spelled markedSpelling).2 (by simp [markedSpelling])⟩

end PromptDiagram.Notation
