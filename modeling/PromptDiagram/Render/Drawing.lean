import PromptDiagram.Alias

/-!
# Drawings

What Mermaid and PlantUML write is the same list twice over: declarations of identifiers with
their captions, then links between identifiers. A drawing is that list, before any notation.
-/

namespace PromptDiagram

/-- An identifier with the text it shows. -/
structure Declaration where
  name : String
  caption : String
  deriving DecidableEq

/-- A link between two identifiers, with a caption if it has one. -/
structure Link where
  source : String
  target : String
  caption : Option String
  deriving DecidableEq

/-- Declarations and links, in the order in which they are written. -/
structure Drawing where
  declarations : List Declaration
  links : List Link
  deriving DecidableEq

namespace Graph

/-- The drawing of a graph: a declaration for each node, then one for each end of an edge whose id
would not show otherwise, and a link for each edge. -/
def drawing (graph : Graph) : Drawing :=
  let aliases := graph.aliases
  { declarations :=
      graph.nodes.map (fun node => ⟨nameIn aliases node.id, node.caption⟩) ++
        graph.undeclared.map fun (id, name) => ⟨name, id⟩
    links := graph.edges.map fun edge =>
      ⟨nameIn aliases edge.source, nameIn aliases edge.target, edge.caption?⟩ }

/-- The identifiers of the nodes, once for each id, in order of first use. -/
def entities (graph : Graph) : List String :=
  let aliases := graph.aliases
  graph.nodeIds.eraseDups.map (nameIn aliases)

/-- The text of a relation: the label of the edge, else its kind, else nothing. -/
def relationCaption (edge : Edge) : String :=
  (edge.caption?.or (nonEmpty edge.kind)).getD ""

/-- The relations between entities, one for each edge. -/
def relations (graph : Graph) : List Link :=
  let aliases := graph.aliases
  graph.edges.map fun edge =>
    ⟨nameIn aliases edge.source, nameIn aliases edge.target, some (relationCaption edge)⟩

end Graph

end PromptDiagram
