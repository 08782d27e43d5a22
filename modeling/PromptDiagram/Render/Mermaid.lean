import PromptDiagram.Render.Drawing
import PromptDiagram.Render.Parameters
import PromptDiagram.Text.Character

/-!
# Mermaid

A flowchart declares identifiers with a caption in quotation marks and links them by arrows; an
entity diagram declares bare entities and relates one to many. A quoted text has no escapes but
named characters, so a quotation mark and a line feed within it are written as such.
-/

namespace PromptDiagram.Mermaid

open Text

/-- What a character is written as within quotation marks. -/
def escape (c : Char) : String :=
  if c == '"' then "#quot;" else if c == '\n' then "<br/>" else c.toString

/-- A text in quotation marks. -/
def quoted (text : String) : String :=
  "\"" ++ escapeWith escape text ++ "\""

/-- A statement on its own line. -/
def statement (text : String) : String :=
  "    " ++ text

/-- The statement that declares an identifier. -/
def declaration (d : Declaration) : String :=
  statement (d.name ++ "[" ++ quoted d.caption ++ "]")

/-- The statement that links two identifiers. -/
def link (l : Link) : String :=
  match l.caption with
  | some caption => statement (l.source ++ " -->|" ++ quoted caption ++ "| " ++ l.target)
  | none => statement (l.source ++ " --> " ++ l.target)

/-- The lines of a flowchart. -/
def flowchart (graph : Graph) (direction : Direction) : List String :=
  let drawing := graph.drawing
  ("flowchart " ++ direction.name) ::
    (drawing.declarations.map declaration ++ drawing.links.map link)

/-- The statement that declares an entity. -/
def entity (name : String) : String :=
  statement (name ++ " \x7b \x7d")

/-- The statement that relates one entity to many of another. -/
def relation (l : Link) : String :=
  statement (l.source ++ " ||--o\x7b " ++ l.target ++ " : " ++ quoted (l.caption.getD ""))

/-- The lines of an entity diagram. -/
def entityDiagram (graph : Graph) : List String :=
  "erDiagram" :: (graph.entities.map entity ++ graph.relations.map relation)

/-- The text of a graph as a diagram of a family. -/
def render (graph : Graph) : Diagram → Direction → String
  | .flow, direction => joinLines (flowchart graph direction)
  | .entities, _ => joinLines (entityDiagram graph)

end PromptDiagram.Mermaid
