import PromptDiagram.Notation
import PromptDiagram.Proofs.Text.Runs

/-!
# Spelled texts

A text spells a graph when its two sections are written out as an author would write them: the
items in order, and blanks wherever the notation allows for them. Each part carries what makes it
legible. A label may hold anything that does not end it, such as parentheses that open, arrows,
colons, or the token that opens the nodes.
-/

namespace PromptDiagram.Notation

open Text

/-- A run of blanks, which may be empty and may hold line feeds. -/
structure Blanks where
  chars : List Char
  blank : ∀ c ∈ chars, isBlank c = true

/-- A word: letters, digits and underscores, and at least one of them. -/
structure Word where
  chars : List Char
  nonempty : chars ≠ []
  word : ∀ c ∈ chars, isWord c = true

/-- Whether a section token occurs in a text, in any letter case. -/
def Holds (token text : List Char) : Prop :=
  ∃ front found back, text = front ++ found ++ back ∧ found.map fold = token

/-- The label of a node. A closing parenthesis would end it, and the token that opens the edges
would end the section that it stands in. -/
structure NodeLabel where
  chars : List Char
  trimmed : IsTrimmed chars
  unclosed : ')' ∉ chars
  tokenless : ¬Holds edgesToken chars

/-- The label of an edge, which a semicolon or a line feed would end. -/
structure EdgeLabel where
  chars : List Char
  nonempty : chars ≠ []
  trimmed : IsTrimmed chars
  within : ∀ c ∈ chars, inLabel c = true

/-- A node as it is written, with blanks before it and around its label. -/
structure NodeSpelling where
  before : Blanks
  id : Word
  left : Blanks
  label : NodeLabel
  right : Blanks

/-- An edge as it is written, with blanks before it, around its arrow and around its colon. -/
structure EdgeSpelling where
  before : Blanks
  source : Word
  beforeArrow : Blanks
  afterArrow : Blanks
  target : Word
  beforeColon : Blanks
  afterColon : Blanks
  label : EdgeLabel

/-- What ends an edge that is not the last thing in its text. -/
inductive Ending where
  | semicolon
  | lineFeed

/-- A text in the notation: nodes, edges with their endings, and perhaps one more edge that the
end of the text ends. -/
structure Spelling where
  nodes : List NodeSpelling
  beforeEdges : Blanks
  edges : List (EdgeSpelling × Ending)
  last : Option EdgeSpelling

/-- The node that is written. -/
def NodeSpelling.node (spelling : NodeSpelling) : Node where
  id := String.ofList spelling.id.chars
  label := some (String.ofList spelling.label.chars)

/-- The edge that is written. -/
def EdgeSpelling.edge (spelling : EdgeSpelling) : Edge where
  source := String.ofList spelling.source.chars
  target := String.ofList spelling.target.chars
  label := some (String.ofList spelling.label.chars)

/-- The graph that is written. -/
def Spelling.graph (spelling : Spelling) : Graph where
  nodes := spelling.nodes.map NodeSpelling.node
  edges := (spelling.edges.map Prod.fst ++ spelling.last.toList).map EdgeSpelling.edge

/-- The text between the parentheses of a node. -/
def NodeSpelling.inside (spelling : NodeSpelling) : List Char :=
  spelling.left.chars ++ spelling.label.chars ++ spelling.right.chars

/-- The text of a node from its word on. -/
def NodeSpelling.item (spelling : NodeSpelling) : List Char :=
  spelling.id.chars ++ '(' :: (spelling.inside ++ [')'])

/-- The text of a node. -/
def NodeSpelling.text (spelling : NodeSpelling) : List Char :=
  spelling.before.chars ++ spelling.item

/-- The text of an edge from its first word on. -/
def EdgeSpelling.item (spelling : EdgeSpelling) : List Char :=
  spelling.source.chars ++ spelling.beforeArrow.chars ++ ['-', '>'] ++
    spelling.afterArrow.chars ++ spelling.target.chars ++ spelling.beforeColon.chars ++ [':'] ++
    spelling.afterColon.chars ++ spelling.label.chars

/-- The text of an edge. -/
def EdgeSpelling.text (spelling : EdgeSpelling) : List Char :=
  spelling.before.chars ++ spelling.item

/-- The character of an ending. -/
def Ending.char : Ending → Char
  | .semicolon => ';'
  | .lineFeed => '\n'

/-- The text of an edge and its ending. -/
def endedText (edge : EdgeSpelling × Ending) : List Char :=
  edge.1.text ++ [edge.2.char]

/-- The text of the nodes, up to the token that opens the edges. -/
def Spelling.nodesText (spelling : Spelling) : List Char :=
  spelling.nodes.flatMap NodeSpelling.text ++ spelling.beforeEdges.chars

/-- The text of the edges, from behind the token that opens them. -/
def Spelling.edgesText (spelling : Spelling) : List Char :=
  spelling.edges.flatMap endedText ++ spelling.last.toList.flatMap EdgeSpelling.text

/-- The token that opens the nodes, as it is written. -/
def nodesOpening : List Char := ['N', 'O', 'D', 'E', 'S', ':']

/-- The token that opens the edges, as it is written. -/
def edgesOpening : List Char := ['E', 'D', 'G', 'E', 'S', ':']

/-- The text that spells a graph. -/
def Spelling.text (spelling : Spelling) : List Char :=
  nodesOpening ++ spelling.nodesText ++ edgesOpening ++ spelling.edgesText

end PromptDiagram.Notation
