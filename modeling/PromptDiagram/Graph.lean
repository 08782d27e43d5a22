import PromptDiagram.Dictionary

/-!
# Graphs

A graph is what is read from a prompt and what is drawn: nodes and directed edges, each list in
drawing order. Nothing here asks that ids differ or that an edge's ends are nodes; every drawing
must do without.
-/

namespace PromptDiagram

/-- An entity of a diagram. -/
structure Node where
  id : String
  label : Option String := none
  kind : Option String := none
  props : Option (Dictionary String) := none
  deriving DecidableEq

/-- A directed relation between two node ids. -/
structure Edge where
  source : String
  target : String
  label : Option String := none
  kind : Option String := none
  deriving DecidableEq

/-- Nodes and edges in drawing order. -/
structure Graph where
  nodes : List Node
  edges : List Edge
  deriving DecidableEq

/-- A text that is there and not empty. -/
def nonEmpty (text : Option String) : Option String :=
  text.filter fun t => !t.isEmpty

/-- The text that stands for a node: its label, or its id where the label is missing or empty. -/
def Node.caption (node : Node) : String :=
  (nonEmpty node.label).getD node.id

/-- The label of an edge, where an empty one counts as none. -/
def Edge.caption? (edge : Edge) : Option String :=
  nonEmpty edge.label

namespace Graph

/-- The graph with nothing in it. -/
def empty : Graph := ⟨[], []⟩

/-- The ids of the nodes, in drawing order and with repetitions. -/
def nodeIds (graph : Graph) : List String :=
  graph.nodes.map Node.id

/-- The ends of the edges, source before target, in drawing order and with repetitions. -/
def endpoints (graph : Graph) : List String :=
  graph.edges.flatMap fun edge => [edge.source, edge.target]

/-- Every id of the graph: the nodes' ids, then the ends of the edges. -/
def ids (graph : Graph) : List String :=
  graph.nodeIds ++ graph.endpoints

/-- An id of the graph is a node's id, or the source or the target of an edge. -/
theorem mem_ids_iff {graph : Graph} {id : String} :
    id ∈ graph.ids ↔ (∃ node ∈ graph.nodes, node.id = id) ∨
      ∃ edge ∈ graph.edges, edge.source = id ∨ edge.target = id := by
  simp [ids, nodeIds, endpoints, eq_comm]

/-- Whether the graph has at least one node. -/
def hasNodes (graph : Graph) : Bool :=
  !graph.nodes.isEmpty

end Graph
end PromptDiagram
