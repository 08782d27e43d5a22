import PromptDiagram.Alias
import PromptDiagram.Render.Drawing
import PromptDiagram.Render.Parameters
import PromptDiagram.Text.Character

/-!
# DOT

Every id of a graph becomes one token of the DOT language: bare identifiers and numerals as they
are, and everything else in quotation marks, with the quotation mark, the backslash and the line
feed escaped. The words that the language keeps for itself are quoted.
-/

namespace PromptDiagram.Dot

open Text

/-- The words of the language, which no bare identifier may be, in any letter case. -/
def keywords : List String := ["node", "edge", "graph", "digraph", "subgraph", "strict"]

/-- Whether a text is a bare identifier of the language. -/
def isBareToken (text : List Char) : Bool :=
  isIdentifier text && !keywords.any fun word => sameIgnoringCase word.toList text

/-- Whether a text is a numeral: digits, with an optional minus sign before them. -/
def isNumeral (text : List Char) : Bool :=
  let digits := match text with
    | '-' :: rest => rest
    | _ => text
  !digits.isEmpty && digits.all isDigit

/-- What a character is written as within quotation marks. -/
def escape (c : Char) : String :=
  if c == '\\' then "\\\\" else if c == '"' then "\\\"" else if c == '\n' then "\\n" else c.toString

/-- A text in quotation marks. -/
def quoted (text : String) : String :=
  "\"" ++ escapeWith escape text ++ "\""

/-- The token of an id. -/
def token (id : String) : String :=
  if isBareToken id.toList || isNumeral id.toList then id else quoted id

/-- The attribute list that holds a label. -/
def label (text : String) : String :=
  " [label=" ++ quoted text ++ "]"

/-- The line of a node. -/
def node (n : Node) : String :=
  "  " ++ token n.id ++ label n.caption ++ ";"

/-- The line of an edge. -/
def edge (e : Edge) : String :=
  "  " ++ token e.source ++ " -> " ++ token e.target ++ (e.caption?.map label).getD "" ++ ";"

/-- The name of a direction in the language. -/
def rankDirection : Direction → String
  | .down => "TB"
  | .right => "LR"
  | .up => "BT"
  | .left => "RL"

/-- The lines of a graph. -/
def lines (graph : Graph) (direction : Direction) : List String :=
  ["digraph G \x7b", "  rankdir=" ++ rankDirection direction ++ ";", "  node [shape=box];"] ++
    graph.nodes.map node ++ graph.edges.map edge ++ ["\x7d"]

/-- The text of a graph. -/
def render (graph : Graph) (direction : Direction) : String :=
  joinLines (lines graph direction)

end PromptDiagram.Dot
