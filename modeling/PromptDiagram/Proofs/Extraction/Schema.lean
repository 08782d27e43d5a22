import PromptDiagram.Graph.Data
import PromptDiagram.Proofs.Dictionary
import PromptDiagram.Schema

/-!
# Graphs that are written as data

A graph that is written as data passes the checks of the schema and comes out as it was, provided
that none of its ids is blank. Each check is looked at once: it accepts a part of a graph that was
written, and what it makes of it is that part.
-/

namespace PromptDiagram

open Json Text

/-- Whether no id in a graph is blank. -/
structure Graph.HasVisibleIds (graph : Graph) : Prop where
  nodes : ∀ node ∈ graph.nodes, isBlankString node.id = false
  edges : ∀ edge ∈ graph.edges,
    isBlankString edge.source = false ∧ isBlankString edge.target = false

namespace Schema

variable {members : Members} {path name : String}

/-- A string that is not blank is accepted where one is required. -/
theorem requiredString_text (s : String) (written : Value.member? members name = some (.text s))
    (visible : isBlankString s = false) : requiredString members path name = .accept s := by
  simp [requiredString, written, visible]

/-- A string or null is accepted where a string may be missing. -/
theorem optionalString_ofOption (text : Option String)
    (written : Value.member? members name = some (.ofOption text)) :
    optionalString members path name = .accept text := by
  cases text <;> simp [optionalString, written, Value.ofOption]

/-- Strings that are written as properties are found. -/
theorem filterMap_propertyEntry? (entries : List (String × String)) :
    (entries.map fun (name, text) => (name, Value.text text)).filterMap propertyEntry? =
      entries := by
  simp [List.filterMap_map, Function.comp_def, propertyEntry?]

/-- Nothing is wrong with strings that are written as properties. -/
theorem filterMap_propertyViolation? (path : String) (entries : List (String × String)) :
    (entries.map fun (name, text) => (name, Value.text text)).filterMap
      (propertyViolation? path) = [] := by
  simp [propertyViolation?]

/-- Properties that are written are accepted. -/
theorem properties_value (props : Option (Dictionary String))
    (written : Value.member? members "props" = some (propertiesValue props)) :
    properties members path = .accept props := by
  cases props with
  | none => simp [properties, written, propertiesValue]
  | some props =>
    have ascending : (props.entries.map fun (name, text) => (name, Value.text text)).Pairwise
        fun a b => a.1 < b.1 := by
      simpa [List.pairwise_map] using props.ascending
    simp only [properties, written, propertiesValue, Dictionary.entries_ofList ascending,
      filterMap_propertyEntry?, filterMap_propertyViolation?, Dictionary.ofList_entries]
    rfl

/-- A node that is written is accepted if its id is not blank. -/
theorem node_value {node : Node} (visible : isBlankString node.id = false) (path : String) :
    object Schema.node path node.value = .accept node := by
  simp only [object, Node.value, Schema.node]
  rw [requiredString_text node.id rfl visible, optionalString_ofOption node.label rfl,
    optionalString_ofOption node.kind rfl, properties_value node.props rfl]
  rfl

/-- An edge that is written is accepted if its ends are not blank. -/
theorem edge_value {edge : Edge} (source : isBlankString edge.source = false)
    (target : isBlankString edge.target = false) (path : String) :
    object Schema.edge path edge.value = .accept edge := by
  simp only [object, Edge.value, Schema.edge]
  rw [requiredString_text edge.source rfl source, requiredString_text edge.target rfl target,
    optionalString_ofOption edge.label rfl, optionalString_ofOption edge.kind rfl]
  rfl

/-- Elements that are written are accepted if each of them is. -/
theorem elements_map {α : Type} {check : Members → String → Checked α} {value : α → Value}
    {items : List α} (written : Value.member? members name = some (.array (items.map value)))
    (accepts : ∀ item ∈ items, ∀ path, object check path (value item) = .accept item) :
    elements check members name = .accept items := by
  have checked : (items.map value).mapIdx (fun index item =>
      object check (elementPath name index) item) = items.map Checked.accept := by
    apply List.ext_getElem (by simp)
    intro index within within'
    simpa using accepts _ (List.getElem_mem _) _
  simp [elements, written, checked, Checked.accept, List.filterMap_map, Function.comp_def,
    List.flatMap_map]

/-- A graph that is written is accepted if none of its ids is blank. -/
theorem validate_value {graph : Graph} (visible : graph.HasVisibleIds) :
    validate graph.value = .ok graph := by
  have nodes : ∀ members, Value.member? members "nodes" =
      some (.array (graph.nodes.map Node.value)) →
      elements Schema.node members "nodes" = .accept graph.nodes := fun _ written =>
    elements_map written fun node mem path => node_value (visible.nodes node mem) path
  have edges : ∀ members, Value.member? members "edges" =
      some (.array (graph.edges.map Edge.value)) →
      elements Schema.edge members "edges" = .accept graph.edges := fun _ written =>
    elements_map written fun edge mem path =>
      edge_value (visible.edges edge mem).1 (visible.edges edge mem).2 path
  simp only [validate, Graph.value, graphMembers]
  rw [nodes _ rfl, edges _ rfl]
  rfl

end Schema
end PromptDiagram
