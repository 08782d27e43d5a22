import PromptDiagram.Graph.Data
import PromptDiagram.Proofs.Json.Drafts

/-!
# Graphs from members

Nodes, edges and graphs are read off objects whose names are distinct by what the members of their
fields' names decode to, whatever the order of the members and whatever else stands among them.
-/

namespace PromptDiagram

open Json Json.Shape

/-- The node that the members of an object make. -/
def Node.ofMembers (members : List (String × Value)) : Option Node := do
  let id ← memberOf Value.text? members "id"
  let label ← memberOf (Value.option? Value.text?) members "label"
  let kind ← memberOf (Value.option? Value.text?) members "kind"
  let props ← memberOf (Value.option? (Value.dictionary? Value.text?)) members "props"
  let id ← id
  return { id, label := label.join, kind := kind.join, props := props.join }

/-- The edge that the members of an object make. -/
def Edge.ofMembers (members : List (String × Value)) : Option Edge := do
  let source ← memberOf Value.text? members "source"
  let target ← memberOf Value.text? members "target"
  let label ← memberOf (Value.option? Value.text?) members "label"
  let kind ← memberOf (Value.option? Value.text?) members "kind"
  let source ← source
  let target ← target
  return { source, target, label := label.join, kind := kind.join }

/-- The graph that the members of an object make, where every node and edge is an object. -/
def Graph.ofMembers (members : List (String × Value)) : Option Graph := do
  let nodes ← memberOf (Value.list? (Value.object? Node.ofMembers)) members "nodes"
  let edges ← memberOf (Value.list? (Value.object? Edge.ofMembers)) members "edges"
  let nodes ← nodes
  let edges ← edges
  return { nodes, edges }

/-! ## Nodes -/

/-- The id of a node has a place of its own. -/
theorem Node.keeps_id : Node.shape.Keeps "id" Node.Draft.id readString :=
  keeps_fieldOf rfl (fun _ _ => rfl) (by simp [Node.shape, spares_fieldOf])

/-- The label of a node has a place of its own. -/
theorem Node.keeps_label : Node.shape.Keeps "label" Node.Draft.label (readOption readString) :=
  keeps_fieldOf rfl (fun _ _ => rfl) (by simp [Node.shape, spares_fieldOf])

/-- The kind of a node has a place of its own. -/
theorem Node.keeps_kind : Node.shape.Keeps "kind" Node.Draft.kind (readOption readString) :=
  keeps_fieldOf rfl (fun _ _ => rfl) (by simp [Node.shape, spares_fieldOf])

/-- The properties of a node have a place of their own. -/
theorem Node.keeps_props :
    Node.shape.Keeps "props" Node.Draft.props (readOption (readDictionary readString)) :=
  keeps_fieldOf rfl (fun _ _ => rfl) (by simp [Node.shape, spares_fieldOf])

/-- A string that may be null is read as it decodes. -/
theorem reads_optionalString (value : Value) :
    Reads (readOption readString) (Value.option? Value.text?) value :=
  (reads_string value).option

/-- Strings by name that may be null are read as they decode. -/
theorem reads_optionalStrings (value : Value) :
    Reads (readOption (readDictionary readString))
      (Value.option? (Value.dictionary? Value.text?)) value :=
  (Reads.dictionary fun _ _ member _ => reads_string member.2).option

/-- The fields of a node. -/
def Node.slots : List (Slot Node.Draft) := [
  ⟨"id", Node.Draft.id, readString, Value.text?⟩,
  ⟨"label", Node.Draft.label, readOption readString, Value.option? Value.text?⟩,
  ⟨"kind", Node.Draft.kind, readOption readString, Value.option? Value.text?⟩,
  ⟨"props", Node.Draft.props, readOption (readDictionary readString),
    Value.option? (Value.dictionary? Value.text?)⟩]

/-- A node is read off an object with distinct names as its members make it. -/
theorem Node.reads {members : List (String × Value)} (distinct : (members.map Prod.fst).Nodup) :
    Reads Node.shape.reader (Value.object? Node.ofMembers) (.object members) := by
  refine Shape.reads_object Node.slots rfl ?_ (by simp [Node.shape]) distinct ?_ ?_ ?_ <;>
    simp only [slots, List.forall_mem_cons, List.not_mem_nil, false_implies, implies_true, and_true]
  case refine_1 => exact ⟨keeps_id, keeps_label, keeps_kind, keeps_props⟩
  case refine_2 =>
    exact ⟨fun value _ => reads_string value, fun value _ => reads_optionalString value,
      fun value _ => reads_optionalString value, fun value _ => reads_optionalStrings value⟩
  case refine_3 =>
    rintro ⟨_ | _, _, _, _⟩ ⟨id, label, kind, props⟩ <;>
      simp only [Node.ofMembers, id, label, kind, props, Option.bind_eq_bind, Option.bind_some] <;>
      rfl
  case refine_4 => refine ⟨?_, ?_, ?_, ?_⟩ <;> intro missing <;> simp [Node.ofMembers, missing]

/-! ## Edges -/

/-- The source of an edge has a place of its own. -/
theorem Edge.keeps_source : Edge.shape.Keeps "source" Edge.Draft.source readString :=
  keeps_fieldOf rfl (fun _ _ => rfl) (by simp [Edge.shape, spares_fieldOf])

/-- The target of an edge has a place of its own. -/
theorem Edge.keeps_target : Edge.shape.Keeps "target" Edge.Draft.target readString :=
  keeps_fieldOf rfl (fun _ _ => rfl) (by simp [Edge.shape, spares_fieldOf])

/-- The label of an edge has a place of its own. -/
theorem Edge.keeps_label : Edge.shape.Keeps "label" Edge.Draft.label (readOption readString) :=
  keeps_fieldOf rfl (fun _ _ => rfl) (by simp [Edge.shape, spares_fieldOf])

/-- The kind of an edge has a place of its own. -/
theorem Edge.keeps_kind : Edge.shape.Keeps "kind" Edge.Draft.kind (readOption readString) :=
  keeps_fieldOf rfl (fun _ _ => rfl) (by simp [Edge.shape, spares_fieldOf])

/-- The fields of an edge. -/
def Edge.slots : List (Slot Edge.Draft) := [
  ⟨"source", Edge.Draft.source, readString, Value.text?⟩,
  ⟨"target", Edge.Draft.target, readString, Value.text?⟩,
  ⟨"label", Edge.Draft.label, readOption readString, Value.option? Value.text?⟩,
  ⟨"kind", Edge.Draft.kind, readOption readString, Value.option? Value.text?⟩]

/-- An edge is read off an object with distinct names as its members make it. -/
theorem Edge.reads {members : List (String × Value)} (distinct : (members.map Prod.fst).Nodup) :
    Reads Edge.shape.reader (Value.object? Edge.ofMembers) (.object members) := by
  refine Shape.reads_object Edge.slots rfl ?_ (by simp [Edge.shape]) distinct ?_ ?_ ?_ <;>
    simp only [slots, List.forall_mem_cons, List.not_mem_nil, false_implies, implies_true, and_true]
  case refine_1 => exact ⟨keeps_source, keeps_target, keeps_label, keeps_kind⟩
  case refine_2 =>
    exact ⟨fun value _ => reads_string value, fun value _ => reads_string value,
      fun value _ => reads_optionalString value, fun value _ => reads_optionalString value⟩
  case refine_3 =>
    rintro ⟨_ | _, _ | _, _, _⟩ ⟨source, target, label, kind⟩ <;>
      simp only [Edge.ofMembers, source, target, label, kind, Option.bind_eq_bind,
        Option.bind_some] <;>
      rfl
  case refine_4 => refine ⟨?_, ?_, ?_, ?_⟩ <;> intro missing <;> simp [Edge.ofMembers, missing]

/-! ## Graphs -/

/-- The nodes of a graph have a place of their own. -/
theorem Graph.keeps_nodes :
    Graph.shape.Keeps "nodes" Graph.Draft.nodes (readList Node.shape.reader) :=
  keeps_fieldOf rfl (fun _ _ => rfl) (by simp [Graph.shape, spares_fieldOf])

/-- The edges of a graph have a place of their own. -/
theorem Graph.keeps_edges :
    Graph.shape.Keeps "edges" Graph.Draft.edges (readList Edge.shape.reader) :=
  keeps_fieldOf rfl (fun _ _ => rfl) (by simp [Graph.shape, spares_fieldOf])

/-- Whether the elements of the arrays that a graph is made of are objects. -/
def ElementsAreObjects (members : List (String × Value)) : Prop :=
  ∀ name ∈ ["nodes", "edges"], ∀ items, Value.member? members name = some (.array items) →
    ∀ item ∈ items, item.kind = .object

/-- Elements that are objects are read one by one. -/
theorem reads_elements {α : Type} {read : Reader α} {make : List (String × Value) → Option α}
    (reads : ∀ entries, (entries.map Prod.fst).Nodup →
      Reads read (Value.object? make) (.object entries))
    {members : List (String × Value)} (unrepeated : (Value.object members).unrepeated)
    (objects : ElementsAreObjects members) {name : String} (named : name ∈ ["nodes", "edges"])
    {value : Value} (mem : (name, value) ∈ members) :
    Reads (readList read) (Value.list? (Value.object? make)) value := by
  apply Reads.list
  rintro items rfl item inside
  have unrepeatedItem := unrepeated_of_mem_array (unrepeated_of_mem_object unrepeated mem) inside
  have object := objects name named items
    (member?_of_mem (nodup_of_unrepeated unrepeated) mem) item inside
  cases item with
  | object entries => exact reads entries (nodup_of_unrepeated unrepeatedItem)
  | _ => cases object

/-- The fields of a graph. -/
def Graph.slots : List (Slot Graph.Draft) := [
  ⟨"nodes", Graph.Draft.nodes, readList Node.shape.reader,
    Value.list? (Value.object? Node.ofMembers)⟩,
  ⟨"edges", Graph.Draft.edges, readList Edge.shape.reader,
    Value.list? (Value.object? Edge.ofMembers)⟩]

/-- A graph is read off an object without repeated names as its members make it, if its elements
are objects. -/
theorem Graph.reads {members : List (String × Value)}
    (unrepeated : (Value.object members).unrepeated) (objects : ElementsAreObjects members) :
    Reads Graph.shape.reader (Value.object? Graph.ofMembers) (.object members) := by
  have readsNodes (value : Value) (mem : ("nodes", value) ∈ members) :=
    reads_elements (fun _ distinct => Node.reads distinct) unrepeated objects (by simp) mem
  have readsEdges (value : Value) (mem : ("edges", value) ∈ members) :=
    reads_elements (fun _ distinct => Edge.reads distinct) unrepeated objects (by simp) mem
  refine Shape.reads_object Graph.slots rfl ?_ (by simp [Graph.shape])
    (nodup_of_unrepeated unrepeated) ?_ ?_ ?_ <;>
    simp only [slots, List.forall_mem_cons, List.not_mem_nil, false_implies, implies_true, and_true]
  case refine_1 => exact ⟨keeps_nodes, keeps_edges⟩
  case refine_2 => exact ⟨readsNodes, readsEdges⟩
  case refine_3 =>
    rintro ⟨_ | _, _ | _⟩ ⟨nodes, edges⟩ <;>
      simp only [Graph.ofMembers, nodes, edges, Option.bind_eq_bind, Option.bind_some] <;>
      rfl
  case refine_4 => refine ⟨?_, ?_⟩ <;> intro missing <;> simp [Graph.ofMembers, missing]

end PromptDiagram
