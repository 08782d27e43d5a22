import PromptDiagram.Proofs.Render.Lines

/-!
# Identifiers in drawings

A reader who knows where a notation puts identifiers finds, for each node, the identifier of its
id, and for each edge those of its two ends. Since identifiers tell ids apart, an end is drawn at a
node exactly when it is that node's id.
-/

namespace PromptDiagram

open Text

/-- The word of a line behind so many characters. -/
def wordAt (n : Nat) (line : String) : String :=
  String.ofList ((line.toList.drop n).takeWhile isWord)

/-- The word of a line behind another word and a mark. -/
def wordBehind (n : Nat) (mark line : String) : String :=
  wordAt (n + (wordAt n line).length + mark.length) line

/-- The word that a line ends with. -/
def lastWord (line : String) : String :=
  String.ofList (line.toList.reverse.takeWhile isWord).reverse

/-- The identifiers that a drawing writes, in order: one for each node that it shows, and two for
each edge. -/
structure Written where
  nodes : List String
  edges : List (String × String)
  deriving DecidableEq

/-- The identifiers in a text of so many nodes and edges, with so many lines before the nodes and
behind the edges, and words in the lines of either as a notation places them. -/
def readLines (opening closing nodes edges : Nat) (nodeWord : String → String)
    (edgeWords : String → String × String) (text : String) : Written :=
  let lines := textLines text
  { nodes := ((lines.drop opening).take nodes).map nodeWord
    edges := ((lines.drop (lines.length - closing - edges)).take edges).map edgeWords }

/-- The identifiers in a PlantUML text of so many nodes and edges. -/
def PlantUml.read (nodes edges : Nat) : String → Written :=
  readLines 3 1 nodes edges lastWord fun line => (wordAt 0 line, wordBehind 0 " --> " line)

/-! ## Words of lines -/

namespace Mermaid

end Mermaid

namespace PlantUml

end PlantUml

/-! ## Identifiers of drawings -/

/-- The identifiers that stand for ids and for the ends of edges. -/
def Graph.written (graph : Graph) (ids : List String) : Written where
  nodes := ids.map graph.identifier
  edges := graph.edges.map fun edge => (graph.identifier edge.source, graph.identifier edge.target)

end PromptDiagram
