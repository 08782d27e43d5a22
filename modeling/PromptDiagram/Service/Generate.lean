import PromptDiagram.Extraction
import PromptDiagram.Graph.Data
import PromptDiagram.Json.Reader
import PromptDiagram.Render.Renderer
import PromptDiagram.Service.Failure

/-!
# Diagrams on request

A request names a prompt and, if it likes, a family, a renderer and a direction. The renderer is
looked up before anything is extracted, so an unknown one costs no chat. The answer holds the text
of the diagram, the same in a fenced block, and the graph that was drawn.
-/

namespace PromptDiagram.Service

open Json

/-- A request for a diagram. -/
structure Order where
  prompt : String
  diagram : Diagram := Diagram.standard
  renderer : String := Renderer.standard.name
  /-- The direction; none stands for the usual one. -/
  direction : Option Direction := none
  deriving DecidableEq

/-- An order that is being read. -/
structure Order.Draft where
  prompt : Option String := none
  diagram : Option Diagram := none
  renderer : Option String := none
  direction : Option (Option Direction) := none

/-- How orders are read. -/
def Order.shape : Shape Order.Draft Order where
  name := "GenerateRequest"
  fields := [
    fieldOf "prompt" false Order.Draft.prompt (fun d x => { d with prompt := some x }) readString,
    fieldOf "diagram" true Order.Draft.diagram (fun d x => { d with diagram := some x })
      (readNamed Diagram.named),
    fieldOf "renderer" true Order.Draft.renderer (fun d x => { d with renderer := some x })
      readString,
    fieldOf "direction" true Order.Draft.direction (fun d x => { d with direction := some x })
      (readOption (readNamed Direction.named))]
  blank := {}
  finish d := do
    let prompt ← required "prompt" d.prompt
    return {
      prompt
      diagram := d.diagram.getD Diagram.standard
      renderer := d.renderer.getD Renderer.standard.name
      direction := d.direction.join }

/-- What is delivered for an order. -/
structure Delivery where
  code : String
  markdown : String
  graph : Graph
  deriving DecidableEq

/-- A delivery as data. -/
def Delivery.value (delivery : Delivery) : Value :=
  .object [("code", .text delivery.code), ("markdown", .text delivery.markdown),
    ("graph", delivery.graph.value)]

/-- A delivery that is being read. -/
structure Delivery.Draft where
  code : Option String := none
  markdown : Option String := none
  graph : Option Graph := none

/-- How deliveries are read. -/
def Delivery.shape : Shape Delivery.Draft Delivery where
  name := "GenerateResponse"
  fields := [
    fieldOf "code" false Delivery.Draft.code (fun d x => { d with code := some x }) readString,
    fieldOf "markdown" false Delivery.Draft.markdown (fun d x => { d with markdown := some x })
      readString,
    fieldOf "graph" false Delivery.Draft.graph (fun d x => { d with graph := some x })
      Graph.shape.reader]
  blank := {}
  finish d := do
    let code ← required "code" d.code
    let markdown ← required "markdown" d.markdown
    let graph ← required "graph" d.graph
    return { code, markdown, graph }

/-- The delivery of a graph that was extracted for an order. -/
def deliver (order : Order) (renderer : Renderer) (graph : Graph) : Except Failure Delivery :=
  if graph.hasNodes then
    let code :=
      renderer.render graph order.diagram (order.direction.getD Direction.standard)
    .ok { code, markdown := renderer.markdown code, graph }
  else .error .noNodes

/-- Carry out an order, and the extractor afterwards. -/
def generate (order : Order) (extractor : Option Extractor) :
    Except Failure Delivery × Option Extractor :=
  match Renderer.ofName? order.renderer with
  | none => (.error (.unknownRenderer order.renderer), extractor)
  | some renderer =>
    let (graph, extractor) := graphOfPrompt order.prompt extractor
    (deliver order renderer graph, extractor)

end PromptDiagram.Service
