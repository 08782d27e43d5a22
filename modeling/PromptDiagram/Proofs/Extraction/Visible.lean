import PromptDiagram.Proofs.Extraction.Description
import PromptDiagram.Proofs.Json.Prose
import PromptDiagram.Proofs.Notation.Scanning
import PromptDiagram.Proofs.Service.Fallback

/-!
# Visible ids

Every id in the graph of a prompt is more than blanks, wherever the graph comes from: the notation
reads ids as words, and the schema refuses blank ones in the reply of a model. So there is something
to show for every node, with or without a label.
-/

namespace PromptDiagram

open Json Text

/-! ## Graphs that are spelled out -/

namespace Notation

/-- What holds of every item that can be read holds of all items of a text. -/
theorem forall_mem_items {α : Type} {item? : List Char → Option (α × List Char)} {holds : α → Prop}
    (reads : ∀ {text item after}, item? text = some (item, after) → holds item)
    (text : List Char) : ∀ item ∈ items item? text, holds item := by
  unfold items
  generalize text.length = steps
  induction steps generalizing text with
  | zero => exact fun item mem => absurd mem List.not_mem_nil
  | succ steps ih =>
    cases text with
    | nil => exact fun item mem => absurd mem List.not_mem_nil
    | cons c rest =>
      rw [itemsWithin]
      split
      · rename_i first after read
        exact List.forall_mem_cons.mpr ⟨reads read, ih after⟩
      · exact ih rest

/-- A word is more than blanks. -/
theorem visible_word {text after : List Char} {word : String}
    (read : word? text = some (word, after)) : isBlankString word = false := by
  unfold word? at read
  split at read
  · cases read
  · rename_i run nonempty
    obtain ⟨rfl, -⟩ : String.ofList (text.takeWhile isWord) = word ∧ _ := by simpa using read
    obtain ⟨c, others, chars⟩ := List.exists_cons_of_ne_nil nonempty
    have first : isWord c = true :=
      List.all_eq_true.mp List.all_takeWhile c (chars ▸ List.mem_cons_self)
    simp [isBlankString, isBlankText, chars, not_isBlank_of_isWord first]

/-- The id of a node that is read is a word. -/
theorem visible_node {text after : List Char} {node : Node}
    (read : node? text = some (node, after)) : isBlankString node.id = false := by
  simp only [node?, Option.bind_eq_bind, Option.bind_eq_some_iff] at read
  obtain ⟨⟨id, rest⟩, word, rest', -, ⟨label, rest''⟩, -, same⟩ := read
  obtain ⟨rfl, -⟩ : _ = node ∧ _ := by simpa using same
  exact visible_word word

/-- The ends of an edge that is read are words. -/
theorem visible_edge {text after : List Char} {edge : Edge}
    (read : edge? text = some (edge, after)) :
    isBlankString edge.source = false ∧ isBlankString edge.target = false := by
  simp only [edge?, Option.bind_eq_bind, Option.bind_eq_some_iff] at read
  obtain ⟨⟨source, rest⟩, word, rest, -, ⟨target, rest⟩, word', rest, -, ⟨label, rest⟩, -, same⟩ :=
    read
  obtain ⟨rfl, -⟩ : _ = edge ∧ _ := by simpa using same
  exact ⟨visible_word word, visible_word word'⟩

/-- The ids of a graph that is spelled out are visible. -/
theorem hasVisibleIds_graph (text : List Char) : (graph text).HasVisibleIds where
  nodes := forall_mem_items visible_node _
  edges := forall_mem_items visible_edge _

end Notation

/-! ## Graphs that are extracted -/

namespace Schema

/-- What holds of everything that members can describe holds of all items of an array. -/
theorem IsArrayOf.forall_mem {α : Type} {described : Members → α → Prop} {holds : α → Prop}
    {value : Option Value} {as : List α} (is : IsArrayOf described value as)
    (all : ∀ {members a}, described members a → holds a) : ∀ a ∈ as, holds a := by
  obtain ⟨items⟩ := is
  induction items with
  | nil => exact fun a mem => absurd mem List.not_mem_nil
  | cons first _ ih =>
    obtain ⟨first⟩ := first
    exact List.forall_mem_cons.mpr ⟨all first, ih⟩

/-- The ids of a graph that a value describes are visible. -/
theorem Describes.hasVisibleIds {value : Value} {graph : Graph}
    (described : Describes value graph) : graph.HasVisibleIds := by
  obtain ⟨is⟩ := described
  exact ⟨is.nodes.forall_mem fun node => node.visible,
    is.edges.forall_mem fun edge => ⟨edge.visibleSource, edge.visibleTarget⟩⟩

end Schema

namespace Extraction

/-- The ids of a graph that comes of a chat are visible. -/
theorem hasVisibleIds_of_ofOutcome {outcome : Chat.Outcome} {graph : Graph}
    (made : ofOutcome outcome = .ok graph) : graph.HasVisibleIds := by
  cases outcome with
  | error failure => cases made
  | ok completion =>
    obtain ⟨value, -, described⟩ := exists_of_bind_eq_ok made
    exact (valueGraph_eq_ok_iff.mp described).hasVisibleIds

/-- The ids of the graph that is used are visible if those of the one to fall back on are. -/
theorem hasVisibleIds_firstUsable (outcome : Chat.Outcome) {fallback : Graph}
    (visible : fallback.HasVisibleIds) :
    (firstUsable (ofOutcome outcome) fallback).HasVisibleIds := by
  unfold firstUsable
  split
  · rename_i graph made
    split
    · exact hasVisibleIds_of_ofOutcome made
    · exact visible
  · exact visible

end Extraction

/-! ## Graphs of prompts -/

/-- The ids of the graph of a prompt are visible. -/
theorem hasVisibleIds_graphOfPrompt (prompt : String) (extractor : Option Extractor) :
    (graphOfPrompt prompt extractor).1.HasVisibleIds := by
  have spelled : (graphOfPrompt prompt none).1.HasVisibleIds := by
    rw [graphOfPrompt_none]
    exact Notation.hasVisibleIds_graph prompt.toList
  cases extractor with
  | none => exact spelled
  | some extractor =>
    rcases graphOfPrompt_some prompt extractor with same | preferred
    · rwa [same]
    · rw [preferred]
      exact Extraction.hasVisibleIds_firstUsable _ spelled

/-- Where ids are visible, every id of a node and every end of an edge has a character to show. -/
theorem Graph.HasVisibleIds.exists_visible {graph : Graph} (visible : graph.HasVisibleIds) :
    ∀ id ∈ graph.ids, ∃ c ∈ id.toList, isBlank c = false := by
  have shown {id : String} (visible : isBlankString id = false) :
      ∃ c ∈ id.toList, isBlank c = false := by
    simpa [isBlankString, isBlankText] using visible
  intro id mem
  rcases mem_ids_iff.mp mem with ⟨node, drawn, rfl⟩ | ⟨edge, drawn, rfl | rfl⟩
  · exact shown (visible.nodes node drawn)
  · exact shown (visible.edges edge drawn).1
  · exact shown (visible.edges edge drawn).2

/-- A node with a visible id has a caption. -/
theorem Node.caption_ne_empty {node : Node} (visible : isBlankString node.id = false) :
    node.caption ≠ "" := by
  unfold caption nonEmpty
  cases filtered : node.label.filter fun t => !t.isEmpty with
  | some label =>
    obtain ⟨-, nonempty⟩ := Option.filter_eq_some_iff.mp filtered
    simpa using nonempty
  | none =>
    rintro empty
    rw [Option.getD_none] at empty
    simp [empty, isBlankString, isBlankText] at visible

/-- Whatever a prompt says and whatever becomes of a chat about it, every id of a node and every end
of an edge in its graph has a character that is no blank, and every node has a caption. -/
theorem graphOfPrompt_visible (prompt : String) (extractor : Option Extractor) :
    (∀ id ∈ (graphOfPrompt prompt extractor).1.ids, ∃ c ∈ id.toList, isBlank c = false) ∧
      ∀ node ∈ (graphOfPrompt prompt extractor).1.nodes, node.caption ≠ "" := by
  have visible := hasVisibleIds_graphOfPrompt prompt extractor
  exact ⟨visible.exists_visible, fun node mem => Node.caption_ne_empty (visible.nodes node mem)⟩

/-- A model whose reply has an id with blanks at both ends, and an edge to no node at all. -/
def edgedExtractor : Extractor :=
  Service.untouched {} [.ok (Chat.scriptedCompletion
    ("\x7b\"nodes\": [\x7b\"id\": \" a \"\x7d], " ++
      "\"edges\": [\x7b\"source\": \" a \", \"target\": \"-\"\x7d]\x7d"))]

/-- An id that is nearly blank is kept as it is, and shows. -/
theorem graphOfPrompt_visible_edged :
    " a " ∈ (graphOfPrompt "x" (some edgedExtractor)).1.ids ∧
    "-" ∈ (graphOfPrompt "x" (some edgedExtractor)).1.ids ∧
    (∃ c ∈ " a ".toList, isBlank c = false) ∧ ∃ c ∈ "-".toList, isBlank c = false := by
  have node : " a " ∈ (graphOfPrompt "x" (some edgedExtractor)).1.ids := by decide +kernel
  have target : "-" ∈ (graphOfPrompt "x" (some edgedExtractor)).1.ids := by decide +kernel
  obtain ⟨shown, -⟩ := graphOfPrompt_visible "x" (some edgedExtractor)
  exact ⟨node, target, shown " a " node, shown "-" target⟩

end PromptDiagram
