import PromptDiagram.Graph
import PromptDiagram.Json.Shape

/-!
# Graphs as JSON data

A graph is written with every field in a fixed order, and null for what is missing. It is read from
any data of that shape: optional fields may be absent or null, and unknown members are passed over.
-/

namespace PromptDiagram

open Json

/-- Properties as data. -/
def propertiesValue : Option (Dictionary String) → Value
  | some props => .object (props.entries.map fun (name, text) => (name, .text text))
  | none => .null

/-- A node as data. -/
def Node.value (node : Node) : Value :=
  .object [("id", .text node.id), ("label", .ofOption node.label), ("kind", .ofOption node.kind),
    ("props", propertiesValue node.props)]

/-- An edge as data. -/
def Edge.value (edge : Edge) : Value :=
  .object [("source", .text edge.source), ("target", .text edge.target),
    ("label", .ofOption edge.label), ("kind", .ofOption edge.kind)]

/-- A graph as data. -/
def Graph.value (graph : Graph) : Value :=
  .object [("nodes", .array (graph.nodes.map Node.value)),
    ("edges", .array (graph.edges.map Edge.value))]

/-- A node that is being read. -/
structure Node.Draft where
  id : Option String := none
  label : Option (Option String) := none
  kind : Option (Option String) := none
  props : Option (Option (Dictionary String)) := none

/-- How nodes are read. -/
def Node.shape : Shape Node.Draft Node where
  name := "Node"
  fields := [
    fieldOf "id" false Node.Draft.id (fun d x => { d with id := some x }) readString,
    fieldOf "label" true Node.Draft.label (fun d x => { d with label := some x })
      (readOption readString),
    fieldOf "kind" true Node.Draft.kind (fun d x => { d with kind := some x })
      (readOption readString),
    fieldOf "props" true Node.Draft.props (fun d x => { d with props := some x })
      (readOption (readDictionary readString))]
  blank := {}
  finish d := do
    let id ← required "id" d.id
    return { id, label := d.label.join, kind := d.kind.join, props := d.props.join }

/-- An edge that is being read. -/
structure Edge.Draft where
  source : Option String := none
  target : Option String := none
  label : Option (Option String) := none
  kind : Option (Option String) := none

/-- How edges are read. -/
def Edge.shape : Shape Edge.Draft Edge where
  name := "Edge"
  fields := [
    fieldOf "source" false Edge.Draft.source (fun d x => { d with source := some x }) readString,
    fieldOf "target" false Edge.Draft.target (fun d x => { d with target := some x }) readString,
    fieldOf "label" true Edge.Draft.label (fun d x => { d with label := some x })
      (readOption readString),
    fieldOf "kind" true Edge.Draft.kind (fun d x => { d with kind := some x })
      (readOption readString)]
  blank := {}
  finish d := do
    let source ← required "source" d.source
    let target ← required "target" d.target
    return { source, target, label := d.label.join, kind := d.kind.join }

/-- A graph that is being read. -/
structure Graph.Draft where
  nodes : Option (List Node) := none
  edges : Option (List Edge) := none

/-- How graphs are read. -/
def Graph.shape : Shape Graph.Draft Graph where
  name := "Graph"
  fields := [
    fieldOf "nodes" false Graph.Draft.nodes (fun d x => { d with nodes := some x })
      (readList Node.shape.reader),
    fieldOf "edges" false Graph.Draft.edges (fun d x => { d with edges := some x })
      (readList Edge.shape.reader)]
  blank := {}
  finish d := do
    let nodes ← required "nodes" d.nodes
    let edges ← required "edges" d.edges
    return { nodes, edges }

end PromptDiagram
