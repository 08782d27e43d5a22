import PromptDiagram.Proofs.Alias.Search
import PromptDiagram.Proofs.Render.Scene

/-!
# The ids of elements

A rectangle carries the id of its node and an arrow one that is made of its index. Arrows differ
from each other by their ids, but nothing keeps the id of an arrow apart from those of the nodes:
where a node is called like an arrow of its scene, two elements share one id.
-/

namespace PromptDiagram.Scene

open Json

/-- The id that an element carries. -/
def id? : Value → Option String :=
  Value.object? fun members => found? Value.text? members "id"

/-- A rectangle carries the id of its node. -/
theorem id?_rectangle (node : Node) (index : Nat) : id? (rectangle node index) = some node.id := by
  simp [id?, rectangle, header, Value.object?, found?, Value.member?,
    Dictionary.lookup_cons_eq_ite, Value.text?]

/-- An arrow carries an id that is made of its index. -/
theorem id?_arrow (edge : Edge) (index : Nat) : id? (arrow edge index) = some (arrowId index) := by
  simp [id?, arrow, header, Value.object?, found?, Value.member?,
    Dictionary.lookup_cons_eq_ite, Value.text?]

/-- The ids of the nodes, then those of as many arrows as there are edges. -/
def elementIds (graph : Graph) : List String :=
  graph.nodes.map Node.id ++ (List.range graph.edges.length).map arrowId

/-- Every element of a scene carries an id. -/
theorem map_id?_elements (graph : Graph) :
    (elements graph).map id? = (elementIds graph).map some := by
  have rectangles : (graph.nodes.mapIdx fun index node => rectangle node index).map id? =
      (graph.nodes.map Node.id).map some := by
    apply List.ext_getElem <;> simp [id?_rectangle]
  have arrows : (graph.edges.mapIdx fun index edge => arrow edge index).map id? =
      ((List.range graph.edges.length).map arrowId).map some := by
    apply List.ext_getElem <;> simp [id?_arrow]
  rw [elements, List.map_append, rectangles, arrows, elementIds, List.map_append]

/-- Arrows are told apart by their ids. -/
theorem arrowId_injective : Function.Injective arrowId := by
  intro i j same
  have numerals : (toString i).toList = (toString j).toList := by
    simpa [arrowId] using congrArg String.toList same
  exact toString_injective (String.toList_inj.mp numerals)

/-- The ids of the elements are distinct exactly where those of the nodes are and none of them is
the id of an arrow. -/
theorem nodup_elementIds_iff (graph : Graph) :
    (elementIds graph).Nodup ↔ (graph.nodes.map Node.id).Nodup ∧
      ∀ index < graph.edges.length, arrowId index ∉ graph.nodes.map Node.id := by
  have arrows : ((List.range graph.edges.length).map arrowId).Nodup :=
    List.nodup_range.map arrowId_injective
  rw [elementIds, List.nodup_append]
  constructor
  · rintro ⟨nodes, -, apart⟩
    refine ⟨nodes, fun index within shared => ?_⟩
    have arrow : arrowId index ∈ (List.range graph.edges.length).map arrowId :=
      List.mem_map_of_mem (List.mem_range.mpr within)
    exact apart _ shared _ arrow rfl
  · rintro ⟨nodes, apart⟩
    refine ⟨nodes, arrows, ?_⟩
    rintro id shared _ mem rfl
    obtain ⟨index, within, rfl⟩ := List.mem_map.mp mem
    exact apart index (List.mem_range.mp within) shared

/-- The text of a scene is that of an object, and of no other value of whole numbers, whose
`elements` all carry an id. These ids are distinct if and only if the ids of the nodes are and no
node is called like one of the arrows. -/
theorem ids_distinct_iff (graph : Graph) :
    ∃ members items, ∃ ids : List String, (Value.object members).pretty = render graph ∧
      (∀ other : Value, other.isWhole = true → other.pretty = render graph →
        other = .object members) ∧
      Value.member? members "elements" = some (.array items) ∧ items.map id? = ids.map some ∧
      (ids.Nodup ↔ (graph.nodes.map Node.id).Nodup ∧
        ∀ index < graph.edges.length, arrowId index ∉ graph.nodes.map Node.id) := by
  refine ⟨_, elements graph, elementIds graph, rfl, fun other whole same => ?_, rfl,
    map_id?_elements graph, nodup_elementIds_iff graph⟩
  exact pretty_injective whole (isWhole_scene graph) same

/-- A node that is called like the arrow of the only edge. -/
def collision : Graph where
  nodes := [{ id := "edge_0", label := some "First" }]
  edges := [{ source := "edge_0", target := "edge_0" }]

/-- The only node and the only arrow of the scene share their id. -/
theorem ids_collide : (collision.nodes.map Node.id).Nodup ∧
    ∃ members items, (Value.object members).pretty = render collision ∧
      Value.member? members "elements" = some (.array items) ∧
      items.map id? = [some "edge_0", some "edge_0"] := by
  refine ⟨by decide, _, elements collision, rfl, rfl, ?_⟩
  rw [map_id?_elements]
  decide

end PromptDiagram.Scene
