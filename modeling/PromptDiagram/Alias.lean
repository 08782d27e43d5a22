import PromptDiagram.Graph
import PromptDiagram.Text.Character

/-!
# Identifiers for ids

Some notations take an identifier only as a bare word and give the word `end` a meaning of its
own. An id that is such a word stands for itself. Every other id gets an alias, which is made of
the id's characters, and is unlike every other identifier of the same graph: ids are served in
order of first use, and each takes the first of its candidates that nobody holds.

A candidate is looked for among one more than there are names in use. Candidates of one id differ
from each other, so one of them is free.
-/

namespace PromptDiagram

open Text

/-- Words that may not stand for an id, in any letter case. -/
def reservedWords : List String := ["end"]

/-- Whether a text is a reserved word. -/
def isReserved (text : List Char) : Bool :=
  reservedWords.any fun word => sameIgnoringCase word.toList text

/-- Whether a text has the form of an identifier: a letter or underscore, then letters, digits and
underscores. -/
def isIdentifier : List Char → Bool
  | [] => false
  | first :: rest => isWordStart first && rest.all isWord

/-- Whether an id can stand for itself. -/
def isBare (id : String) : Bool :=
  isIdentifier id.toList && !isReserved id.toList

/-- A text with an underscore for every character that no word has. -/
def wordForm (text : List Char) : List Char :=
  text.map fun c => if isWord c then c else '_'

/-- A word with a letter before it where it is empty or begins with a digit. -/
def withLetterFirst (word : List Char) : List Char :=
  match word with
  | [] => ['n', '_']
  | first :: _ => if isDigit first then 'n' :: '_' :: word else word

/-- The identifier that an id asks for first. -/
def baseAlias (id : String) : String :=
  let word := withLetterFirst (wordForm id.toList)
  String.ofList (if isReserved word then word ++ ['_'] else word)

/-- The identifiers that an id asks for, one after the other: its base, then the base with the
numbers from two on. -/
def candidate (base : String) : Nat → String
  | 0 => base
  | n + 1 => base ++ "_" ++ toString (n + 2)

/-- The first candidate that is not taken. -/
def firstFree (base : String) (taken : List String) : String :=
  let free := (List.range (taken.length + 1)).find? fun n => !taken.contains (candidate base n)
  candidate base (free.getD taken.length)

/-- Serve ids in order: each id that is not bare and not served yet takes its first free
candidate. -/
def assign (taken : List String) (served : List (String × String)) :
    List String → List (String × String)
  | [] => served
  | id :: rest =>
    if isBare id || (served.lookup id).isSome then assign taken served rest
    else
      let name := firstFree (baseAlias id) taken
      assign (name :: taken) (served ++ [(id, name)]) rest

/-- The name that a table of aliases gives an id: its alias, or the id itself. -/
def nameIn (aliases : List (String × String)) (id : String) : String :=
  (aliases.lookup id).getD id

namespace Graph

/-- The ends of the edges in order of first use. -/
def distinctEndpoints (graph : Graph) : List String :=
  graph.endpoints.eraseDups

/-- The ids of the graph in the order in which they are served: nodes, then ends of edges. -/
def servingOrder (graph : Graph) : List String :=
  graph.nodeIds ++ graph.distinctEndpoints

/-- The identifiers that bare ids hold from the outset. -/
def bareIds (graph : Graph) : List String :=
  (graph.servingOrder.filter isBare).eraseDups

/-- The alias of every id that needs one, in serving order. -/
def aliases (graph : Graph) : List (String × String) :=
  assign graph.bareIds [] graph.servingOrder

/-- The identifier that stands for an id: its alias, or the id itself. -/
def identifier (graph : Graph) (id : String) : String :=
  nameIn graph.aliases id

/-- The ends of edges that are no node and have an alias. They are declared with their id, which
would not show otherwise. -/
def undeclared (graph : Graph) : List (String × String) :=
  let aliases := graph.aliases
  (graph.distinctEndpoints.filter fun id => !graph.nodeIds.contains id).filterMap fun id =>
    (aliases.lookup id).map fun name => (id, name)

end Graph
end PromptDiagram
