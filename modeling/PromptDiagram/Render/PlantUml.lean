import PromptDiagram.Render.Drawing
import PromptDiagram.Text.Character

/-!
# PlantUML

One rectangle for each declaration and one arrow for each link, between fixed opening and closing
lines. Within a caption a quotation mark is written as a character reference and a line feed as
the two characters that the notation reads as a break.
-/

namespace PromptDiagram.PlantUml

open Text

/-- What a character of a caption is written as. -/
def escape (c : Char) : String :=
  if c == '"' then "&#34;" else if c == '\n' then "\\n" else c.toString

/-- The line that declares an identifier. -/
def declaration (d : Declaration) : String :=
  "rectangle \"" ++ escapeWith escape d.caption ++ "\" as " ++ d.name

/-- The line that links two identifiers. -/
def link (l : Link) : String :=
  let arrow := l.source ++ " --> " ++ l.target
  match l.caption with
  | some caption => arrow ++ " : " ++ escapeWith escape caption
  | none => arrow

/-- The lines before the first declaration. -/
def opening : List String :=
  ["@startuml", "skinparam shadowing false", "skinparam rectangleBorderRoundCorner 12"]

/-- The lines of a graph. -/
def lines (graph : Graph) : List String :=
  let drawing := graph.drawing
  opening ++ drawing.declarations.map declaration ++ drawing.links.map link ++ ["@enduml"]

/-- The text of a graph. -/
def render (graph : Graph) : String :=
  joinLines (lines graph)

end PromptDiagram.PlantUml
