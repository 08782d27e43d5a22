import PromptDiagram.Proofs.Json.Writing
import PromptDiagram.Proofs.Render.Dot
import PromptDiagram.Render.Scene

/-!
# Scenes read back

The text of a scene is JSON, and a reader that knows only the names of members finds the elements
in it: a rectangle for each node and then an arrow for each edge, each at its place on the grid.
What is read back tells the ids and captions of the nodes and the ends and captions of the edges,
and a scene depends on nothing else.

Places are numbers of 64 bits for graphs that an address space of 64 bits can hold, and only then
is the text read as it was written. That the text tells the graph does not need it.
-/

namespace PromptDiagram.Scene

open Json
open Dot (captionedNodes captionedEdges)

/-! ## A reader of elements -/

/-- An element as it is found in a scene. -/
inductive Element where
  | rectangle (id text : String) (x y : Nat)
  | arrow (source target : String) (label : Option String) (x y : Nat)
  deriving DecidableEq

/-- The natural number that a value is. -/
def natural? : Value → Option Nat
  | .number (.natural n) => some n
  | _ => none

/-- What the member of a name decodes to, which must be there. -/
def found? {α : Type} (decode : Value → Option α) (members : List (String × Value))
    (name : String) : Option α :=
  (Value.member? members name).bind decode

/-- What an arrow carries along: its ends, and a label if it has one. -/
def carried? (members : List (String × Value)) : Option (String × String × Option String) := do
  let source ← found? Value.text? members "source"
  let target ← found? Value.text? members "target"
  let label ← memberOf Value.text? members "label"
  return (source, target, label)

/-- The element that an object is. -/
def element? (members : List (String × Value)) : Option Element := do
  let type ← found? Value.text? members "type"
  let x ← found? natural? members "x"
  let y ← found? natural? members "y"
  match type with
  | "rectangle" =>
    let id ← found? Value.text? members "id"
    let text ← found? Value.text? members "text"
    return .rectangle id text x y
  | "arrow" =>
    let (source, target, label) ← found? (Value.object? carried?) members "customData"
    return .arrow source target label x y
  | _ => none

/-- Whether values are the elements of a graph's scene: a rectangle for each node and then an arrow
for each edge, in three columns. -/
structure AreElements (graph : Graph) (items : List Value) : Prop where
  length_eq : items.length = graph.nodes.length + graph.edges.length
  node : ∀ i node, graph.nodes[i]? = some node →
    items[i]?.bind (Value.object? element?) =
      some (.rectangle node.id node.shownText (i % 3 * 240) (i / 3 * 160))
  edge : ∀ j edge, graph.edges[j]? = some edge →
    items[graph.nodes.length + j]?.bind (Value.object? element?) =
      some (.arrow edge.source edge.target edge.shownText? (30 + j % 3 * 240) (90 + j / 3 * 160))

/-! ## Elements -/

/-- A rectangle is read back. -/
theorem object?_rectangle (node : Node) (index : Nat) :
    Value.object? element? (rectangle node index) =
      some (.rectangle node.id node.shownText (index % 3 * 240) (index / 3 * 160)) := by
  simp [rectangle, node.caption_eq, header, Value.object?, element?, found?, Value.member?,
    Dictionary.lookup_cons_eq_ite, Value.text?, natural?, Value.ofNat, rectanglePlace, place,
    columns, columnStep, rowStep]

/-- The ends of an edge and its label are read back. -/
theorem object?_ends (edge : Edge) :
    Value.object? carried? (ends edge) = some (edge.source, edge.target, edge.shownText?) := by
  cases caption : edge.shownText? <;>
    simp [ends, edge.caption?_eq, caption, Value.object?, carried?, found?, memberOf, Value.member?,
      Dictionary.lookup_cons_eq_ite, Value.text?]

/-- An arrow is read back. -/
theorem object?_arrow (edge : Edge) (index : Nat) :
    Value.object? element? (arrow edge index) =
      some (.arrow edge.source edge.target edge.shownText? (30 + index % 3 * 240)
        (90 + index / 3 * 160)) := by
  have data : found? (Value.object? carried?) (header "arrow" (arrowId index) ++
      [("points", .array [Point.value ⟨0, 0⟩, Point.value ⟨arrowLength, 0⟩]),
        ("x", .ofNat (arrowPlace index).x), ("y", .ofNat (arrowPlace index).y),
        ("customData", ends edge)]) "customData" =
          some (edge.source, edge.target, edge.shownText?) :=
    object?_ends edge
  simp only [arrow, Value.object?, element?, data]
  simp [header, found?, Value.member?, Dictionary.lookup_cons_eq_ite, Value.text?, natural?,
    Value.ofNat, arrowPlace, arrowOffsetX, arrowOffsetY, place, columns, columnStep, rowStep]

/-- What is written as the elements of a graph's scene are its elements. -/
theorem areElements (graph : Graph) : AreElements graph (elements graph) where
  length_eq := by simp [elements]
  node i node written := by
    obtain ⟨within, -⟩ := List.getElem?_eq_some_iff.mp written
    have item : (elements graph)[i]? = some (rectangle node i) := by
      rw [elements, List.getElem?_append_left (by simpa using within), List.getElem?_mapIdx,
        written]
      rfl
    rw [item, Option.bind_some, object?_rectangle]
  edge j edge written := by
    have item : (elements graph)[graph.nodes.length + j]? = some (arrow edge j) := by
      rw [elements, List.getElem?_append_right (by simp), List.length_mapIdx,
        Nat.add_sub_cancel_left, List.getElem?_mapIdx, written]
      rfl
    rw [item, Option.bind_some, object?_arrow]

/-- The elements of a scene are found in the order of the nodes, and then of the edges. -/
theorem AreElements.map_eq {graph : Graph} {items : List Value} (are : AreElements graph items) :
    items.map (Value.object? element?) =
      graph.nodes.mapIdx (fun i node =>
        some (.rectangle node.id node.shownText (i % 3 * 240) (i / 3 * 160))) ++
      graph.edges.mapIdx fun j edge =>
        some (.arrow edge.source edge.target edge.shownText? (30 + j % 3 * 240)
          (90 + j / 3 * 160)) := by
  apply List.ext_getElem (by simp [are.length_eq])
  intro i mapped _
  have within : i < items.length := by simpa using mapped
  have item : items[i]? = some items[i] := List.getElem?_eq_getElem within
  rw [List.getElem_map, List.getElem_append]
  split
  · rename_i isNode
    have node := are.node i _ (List.getElem?_eq_getElem (by simpa using isNode))
    simpa [item] using node
  · rename_i isEdge
    simp only [List.length_mapIdx, Nat.not_lt] at isEdge
    obtain ⟨j, rfl⟩ := Nat.exists_eq_add_of_le isEdge
    have bound : j < graph.edges.length := by
      have count := are.length_eq
      omega
    have edge := are.edge j _ (List.getElem?_eq_getElem bound)
    simpa [item] using edge

/-! ## What a scene tells -/

/-- The id and text of a rectangle. -/
def rectangle? (item : Value) : Option (String × String) :=
  match Value.object? element? item with
  | some (.rectangle id text _ _) => some (id, text)
  | _ => none

/-- What an arrow carries along. -/
def arrow? (item : Value) : Option (String × String × Option String) :=
  match Value.object? element? item with
  | some (.arrow source target label _ _) => some (source, target, label)
  | _ => none

variable {α β γ : Type} {f : Nat → α → β} {pick : β → Option γ}

/-- What is picked from indexed items is one for each of them, if it tells no index. -/
theorem filterMap_mapIdx {g : α → γ} (picked : ∀ i a, pick (f i a) = some (g a)) (items : List α) :
    (items.mapIdx f).filterMap pick = items.map g := by
  induction items generalizing f with
  | nil => rfl
  | cons a items ih =>
    rw [List.mapIdx_cons, List.filterMap_cons_some (picked 0 a), ih fun i => picked (i + 1),
      List.map_cons]

/-- Nothing is picked from indexed items that nothing is picked from. -/
theorem filterMap_mapIdx_none (unpicked : ∀ i a, pick (f i a) = none) (items : List α) :
    (items.mapIdx f).filterMap pick = [] := by
  rw [List.filterMap_eq_nil_iff]
  intro b mem
  obtain ⟨i, -, rfl⟩ := List.mem_mapIdx.mp mem
  exact unpicked i _

/-- The ids and captions of the nodes are those of the rectangles. -/
theorem filterMap_rectangle? (graph : Graph) :
    (elements graph).filterMap rectangle? = captionedNodes graph := by
  rw [elements, List.filterMap_append,
    filterMap_mapIdx (g := fun node : Node => (node.id, node.shownText))
      (fun i node => by simp only [rectangle?, object?_rectangle]),
    filterMap_mapIdx_none (fun j edge => by simp only [rectangle?, object?_arrow]),
    List.append_nil, captionedNodes]

/-- The ends and captions of the edges are those of the arrows. -/
theorem filterMap_arrow? (graph : Graph) :
    (elements graph).filterMap arrow? = captionedEdges graph := by
  rw [elements, List.filterMap_append,
    filterMap_mapIdx_none (fun i node => by simp only [arrow?, object?_rectangle]),
    filterMap_mapIdx (g := fun edge : Edge => (edge.source, edge.target, edge.shownText?))
      (fun j edge => by simp only [arrow?, object?_arrow]),
    List.nil_append, captionedEdges]

/-- Items are indexed alike where what matters of them agrees. -/
theorem mapIdx_congr {g : α → γ} (matters : ∀ i a b, g a = g b → f i a = f i b)
    {items items' : List α} (same : items.map g = items'.map g) :
    items.mapIdx f = items'.mapIdx f := by
  induction items generalizing items' f with
  | nil => cases items' <;> simp_all
  | cons a items ih =>
    cases items' with
    | nil => simp at same
    | cons b items' =>
      simp only [List.map_cons, List.cons.injEq] at same
      rw [List.mapIdx_cons, List.mapIdx_cons, matters 0 a b same.1,
        ih (fun i => matters (i + 1)) same.2]

/-- The elements of a scene depend on the captioned nodes and edges only. -/
theorem elements_congr {graph graph' : Graph} (nodes : captionedNodes graph = captionedNodes graph')
    (edges : captionedEdges graph = captionedEdges graph') : elements graph = elements graph' := by
  have rectangles : graph.nodes.mapIdx (fun index node => rectangle node index) =
      graph'.nodes.mapIdx fun index node => rectangle node index := by
    refine mapIdx_congr (fun index node other same => ?_) nodes
    obtain ⟨id, caption⟩ := Prod.mk.inj same
    simp only [rectangle, Node.caption_eq, id, caption]
  have arrows : graph.edges.mapIdx (fun index edge => arrow edge index) =
      graph'.edges.mapIdx fun index edge => arrow edge index := by
    refine mapIdx_congr (fun index edge other same => ?_) edges
    simp only [Prod.mk.injEq] at same
    obtain ⟨source, target, caption⟩ := same
    simp only [arrow, ends, Edge.caption?_eq, source, target, caption]
  rw [elements, elements, rectangles, arrows]

/-- The numbers of a scene are whole. -/
theorem isWhole_scene (graph : Graph) : (scene graph).isWhole = true := by
  have whole : areWhole (elements graph) = true := by
    refine areWhole_iff.mpr fun item mem => ?_
    rcases List.mem_append.mp mem with mem | mem
    · obtain ⟨index, within, rfl⟩ := List.mem_mapIdx.mp mem
      rfl
    · obtain ⟨index, within, rfl⟩ := List.mem_mapIdx.mp mem
      cases caption : graph.edges[index].caption? <;>
        simp [arrow, ends, caption, header, Value.isWhole, areWhole, areWholeMembers, Value.ofNat,
          Number.isWhole, Point.value]
  simp [scene, Value.isWhole, areWholeMembers, Number.isWhole, Value.ofNat, whole]

/-- Whether an address space of 64 bits has room for a graph, whose nodes and edges take no less
than 64 bytes each. -/
def IsHeld (graph : Graph) : Prop :=
  64 * graph.nodes.length ≤ greatestNatural ∧ 64 * graph.edges.length ≤ greatestNatural

instance (graph : Graph) : Decidable (IsHeld graph) :=
  inferInstanceAs (Decidable (_ ∧ _))

/-- The coordinates of a place and its index are small where the index is. -/
theorem place_le {index : Nat} (small : 64 * index < greatestNatural) :
    index ≤ greatestNatural ∧ index % 3 * 240 ≤ greatestNatural ∧
      index / 3 * 160 ≤ greatestNatural ∧ 30 + index % 3 * 240 ≤ greatestNatural ∧
      90 + index / 3 * 160 ≤ greatestNatural := by
  unfold greatestNatural at small ⊢
  omega

/-- A rectangle can be read back if its index is small. -/
theorem fits_rectangle (node : Node) {index : Nat} (small : 64 * index < greatestNatural)
    (room : Nat) : (rectangle node index).fits (room + 1) = true := by
  obtain ⟨seed, x, y, -⟩ := place_le small
  have constants : 1 ≤ greatestNatural ∧ 180 ≤ greatestNatural ∧ 60 ≤ greatestNatural ∧
      20 ≤ greatestNatural := by decide
  simp [rectangle, header, Value.fits, fitMembers, Value.ofNat, Number.fits, rectanglePlace, place,
    columns, columnStep, rowStep, nodeWidth, nodeHeight, seed, x, y, constants]

/-- An arrow can be read back if its index is small. -/
theorem fits_arrow (edge : Edge) {index : Nat} (small : 64 * index < greatestNatural)
    (room : Nat) : (arrow edge index).fits (room + 3) = true := by
  obtain ⟨-, -, -, x, y⟩ := place_le small
  have constants : 1 ≤ greatestNatural ∧ 120 ≤ greatestNatural := by decide
  cases caption : edge.caption? <;>
    simp [arrow, ends, caption, header, Value.fits, fitMembers, fitItems, Point.value, Value.ofNat,
      Number.fits, arrowPlace, arrowOffsetX, arrowOffsetY, place, columns, columnStep, rowStep,
      arrowLength, x, y, constants]

/-- The scene of a graph that there is room for can be read back. -/
theorem fits_scene {graph : Graph} (held : IsHeld graph) :
    (scene graph).fits greatestDepth = true := by
  have items : fitItems 125 (elements graph) = true := by
    refine fitItems_iff.mpr fun item mem => ?_
    rcases List.mem_append.mp mem with mem | mem
    · obtain ⟨index, within, rfl⟩ := List.mem_mapIdx.mp mem
      exact fits_rectangle _ (by have := held.1; omega) 124
    · obtain ⟨index, within, rfl⟩ := List.mem_mapIdx.mp mem
      exact fits_arrow _ (by have := held.2; omega) 122
  have constants : 2 ≤ greatestNatural := by decide
  simp [scene, greatestDepth, Value.fits, fitMembers, Value.ofNat, Number.fits, items, constants]

/-! ## Faithfulness -/

/-- The text of a scene is that of an object whose `elements` are a rectangle with the id and
caption of each node and an arrow with the ends and the caption of each edge, in their order and in
three columns. It is the text of no other value of whole numbers, and it is read as this one if
there is room for the graph. So the text tells the ids and captions of the nodes and the ends and
captions of the edges, each in their order, and depends on nothing else. -/
theorem render_tells_graph (graph graph' : Graph) :
    (∃ members items, (Value.object members).pretty = render graph ∧
      (∀ other : Value, other.isWhole = true → other.pretty = render graph →
        other = .object members) ∧
      (IsHeld graph → parse (render graph).toList = .ok (.object members)) ∧
      Value.member? members "elements" = some (.array items) ∧ AreElements graph items) ∧
    render graph ≠ "{}" ∧
    (render graph = render graph' ↔ captionedNodes graph = captionedNodes graph' ∧
      captionedEdges graph = captionedEdges graph') := by
  refine ⟨⟨_, elements graph, rfl, fun other whole same => ?_, fun held => ?_, rfl,
    areElements graph⟩, fun same => ?_, fun same => ?_, fun ⟨nodes, edges⟩ => ?_⟩
  · exact pretty_injective whole (isWhole_scene graph) same
  · rw [render, Value.pretty, String.toList_ofList]
    exact parse_indented (fits_scene held)
  · have texts := congrArg String.toList same
    simp [render, scene, Value.pretty, Value.indented, newLine] at texts
  · have scenes := pretty_injective (isWhole_scene graph) (isWhole_scene graph') same
    have items : elements graph = elements graph' := by simpa [scene] using scenes
    rw [← filterMap_rectangle?, ← filterMap_rectangle?, ← filterMap_arrow?, ← filterMap_arrow?,
      items]
    exact ⟨rfl, rfl⟩
  · rw [render, render, scene, scene, elements_congr nodes edges]

/-- Two nodes, one with a caption of its own, and three edges: one with a label, one whose label is
empty and one without. -/
def sketch : Graph where
  nodes := [{ id := "\"a\n", label := some "first" }, { id := "b", label := some "" }]
  edges := [{ source := "b", target := "\"a\n", label := some "to \"a\"" },
    { source := "b", target := "c", label := some "" }, { source := "c", target := "b" }]

/-- The scene of the sketch tells what it shows: the labels that are not empty, and the id of the
node whose label is. -/
theorem render_tells_sketch : IsHeld sketch ∧ ∃ members items,
    parse (render sketch).toList = .ok (.object members) ∧
    Value.member? members "elements" = some (.array items) ∧
    items.map (Value.object? element?) =
      [some (.rectangle "\"a\n" "first" 0 0), some (.rectangle "b" "b" 240 0),
        some (.arrow "b" "\"a\n" (some "to \"a\"") 30 90), some (.arrow "b" "c" none 270 90),
        some (.arrow "c" "b" none 510 90)] := by
  have held : IsHeld sketch := by decide
  obtain ⟨⟨members, items, -, -, read, named, are⟩, -⟩ := render_tells_graph sketch sketch
  refine ⟨held, members, items, read held, named, ?_⟩
  rw [are.map_eq]
  rfl

end PromptDiagram.Scene
