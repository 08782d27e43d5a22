import PromptDiagram.Graph
import PromptDiagram.Notation.Items
import PromptDiagram.Text.Character

/-!
# The prompt notation

A prompt may spell a graph out: `NODES:` followed by `id(label)` items, then `EDGES:` followed by
`source -> target : label` items that end at a semicolon or a line feed. Reading never fails. Text
that is no item is passed over, so a prompt in plain words reads as the empty graph.

Both section tokens are read in any letter case, and the long s counts as an s. The nodes' section
ends at the next `EDGES:` token; the edges' section begins at the first `EDGES:` token of the whole
text and runs to its end, wherever the nodes stand.
-/

namespace PromptDiagram.Notation

open Text

/-! ## Sections -/

/-- The letter that a section token reads a character as. -/
def fold (c : Char) : Char :=
  if c == 'ſ' then 's' else lower c

/-- What follows a token at the beginning of a text, if the text begins with it. -/
def afterToken? : List Char → List Char → Option (List Char)
  | [], text => some text
  | _ :: _, [] => none
  | letter :: token, c :: text => if fold c == letter then afterToken? token text else none

/-- The token that opens the section of nodes. -/
def nodesToken : List Char := ['n', 'o', 'd', 'e', 's', ':']

/-- The token that opens the section of edges. -/
def edgesToken : List Char := ['e', 'd', 'g', 'e', 's', ':']

/-- What follows the first occurrence of a token in a text. -/
def afterFirst? (token : List Char) : List Char → Option (List Char)
  | [] => afterToken? token []
  | c :: rest =>
    match afterToken? token (c :: rest) with
    | some after => some after
    | none => afterFirst? token rest

/-- What precedes the first occurrence of a token in a text; all of it where there is none. -/
def beforeFirst (token : List Char) : List Char → List Char
  | [] => []
  | c :: rest =>
    match afterToken? token (c :: rest) with
    | some _ => []
    | none => c :: beforeFirst token rest

/-- The text in which nodes are looked for. -/
def nodesSection (text : List Char) : List Char :=
  match afterFirst? nodesToken text with
  | some after => beforeFirst edgesToken after
  | none => []

/-- The text in which edges are looked for. -/
def edgesSection (text : List Char) : List Char :=
  (afterFirst? edgesToken text).getD []

/-- Whether the author wrote the token that opens the section of edges. -/
def hasEdgesToken (text : List Char) : Bool :=
  (afterFirst? edgesToken text).isSome

/-! ## Items -/

/-- A word, which may not be empty, and what follows it. -/
def word? (text : List Char) : Option (String × List Char) :=
  match text.takeWhile isWord with
  | [] => none
  | word => some (String.ofList word, text.dropWhile isWord)

/-- What follows the blanks at the beginning of a text. -/
def skipBlanks (text : List Char) : List Char :=
  text.dropWhile isBlank

/-- What follows given characters at the beginning of a text. -/
def skip? : List Char → List Char → Option (List Char)
  | [], text => some text
  | _ :: _, [] => none
  | c :: mark, d :: text => if c == d then skip? mark text else none

/-- A text up to a closing parenthesis, and what follows that parenthesis. -/
def upToParenthesis? : List Char → Option (List Char × List Char)
  | [] => none
  | c :: rest =>
    if c == ')' then some ([], rest)
    else (upToParenthesis? rest).map fun (inside, after) => (c :: inside, after)

/-- A node: a word with a label in parentheses right behind it. -/
def node? (text : List Char) : Option (Node × List Char) := do
  let (id, rest) ← word? text
  let rest ← skip? ['('] rest
  let (label, rest) ← upToParenthesis? rest
  return ({ id, label := some (String.ofList (trim label)) }, rest)

/-- A character that belongs to the label of an edge, which a semicolon or a line feed ends. -/
def inLabel (c : Char) : Bool :=
  c != ';' && c != '\n'

/-- The label of an edge, from behind its colon. The blanks before it do not end it, even if they
hold line feeds. Where no label follows the blanks they stand for an empty one, if they are more
than line feeds. -/
def label? (text : List Char) : Option (List Char × List Char) :=
  let blanks := text.takeWhile isBlank
  let rest := skipBlanks text
  match rest.takeWhile inLabel with
  | [] => if blanks.any inLabel then some ([], rest) else none
  | label => some (label, rest.dropWhile inLabel)

/-- An edge: two words with an arrow between them, a colon and a label. -/
def edge? (text : List Char) : Option (Edge × List Char) := do
  let (source, rest) ← word? text
  let rest ← skip? ['-', '>'] (skipBlanks rest)
  let (target, rest) ← word? (skipBlanks rest)
  let rest ← skip? [':'] (skipBlanks rest)
  let (label, rest) ← label? rest
  return ({ source, target, label := some (String.ofList (trim label)) }, rest)

/-! ## Graphs -/

/-- The graph that a text spells out. -/
def graph (text : List Char) : Graph where
  nodes := items node? (nodesSection text)
  edges := items edge? (edgesSection text)

/-! ## Prompts -/

/-- How much of a graph a prompt spells out. -/
inductive Reading where
  /-- The author used the notation, and the graph is final. -/
  | sufficient (graph : Graph)
  /-- There is not enough structure; the graph is what is left if nothing better turns up. -/
  | insufficient (graph : Graph)
  deriving DecidableEq

/-- A prompt is sufficient when it spells out a node and either an edge or at least the token that
opens the edges. -/
def read (prompt : String) : Reading :=
  let text := prompt.toList
  let graph := graph text
  if graph.hasNodes && (!graph.edges.isEmpty || hasEdgesToken text) then .sufficient graph
  else .insufficient graph

end PromptDiagram.Notation
