import PromptDiagram.Render.Dot
import PromptDiagram.Render.Mermaid
import PromptDiagram.Render.PlantUml
import PromptDiagram.Render.Scene
import PromptDiagram.Text.Character

/-!
# Renderers

The four notations that a graph can be drawn in, by name. Drawing is total: any graph, family and
direction give a text. The text is handed out in a fenced block as well, tagged for its notation.
-/

namespace PromptDiagram

open Text

/-- A notation that graphs are drawn in. -/
inductive Renderer where
  | mermaid
  | dot
  | plantUml
  | excalidraw
  deriving DecidableEq

namespace Renderer

/-- The name of a renderer. -/
def name : Renderer → String
  | .mermaid => "mermaid"
  | .dot => "dot"
  | .plantUml => "plantuml"
  | .excalidraw => "excalidraw"

/-- Every renderer. -/
def all : List Renderer := [.mermaid, .dot, .plantUml, .excalidraw]

/-- The renderer of a name. -/
def ofName? (name : String) : Option Renderer :=
  all.find? fun renderer => renderer.name == name

/-- The renderer that draws where none is asked for. -/
def standard : Renderer := .mermaid

/-- The tag of a fenced block in a renderer's notation. -/
def fence : Renderer → String
  | .excalidraw => "json"
  | renderer => renderer.name

/-- The text of a graph in a renderer's notation. -/
def render : Renderer → Graph → Diagram → Direction → String
  | .mermaid, graph, diagram, direction => Mermaid.render graph diagram direction
  | .dot, graph, _, direction => Dot.render graph direction
  | .plantUml, graph, _, _ => PlantUml.render graph
  | .excalidraw, graph, _, _ => Scene.render graph

/-- A text in a fenced block. -/
def markdown (renderer : Renderer) (code : String) : String :=
  joinLines ["```" ++ renderer.fence, code, "```"]

end Renderer
end PromptDiagram
