import PromptDiagram.Graph
import PromptDiagram.Json.Printer

/-!
# Scenes

A scene places a rectangle for each node and an arrow for each edge on one grid of three columns,
in drawing order. Arrows do not touch the rectangles that they belong to: they lie in the gaps of
the grid, by the edge's own index, and carry their ends along as data.
-/

namespace PromptDiagram.Scene

open Json

/-- The columns of the grid. -/
def columns : Nat := 3

/-- The distance between the columns. -/
def columnStep : Nat := 240

/-- The distance between the rows. -/
def rowStep : Nat := 160

/-- The width of a rectangle. -/
def nodeWidth : Nat := 180

/-- The height of a rectangle. -/
def nodeHeight : Nat := 60

/-- The length of an arrow. -/
def arrowLength : Nat := 120

/-- How far right of its place on the grid an arrow begins. -/
def arrowOffsetX : Nat := 30

/-- How far below its place on the grid an arrow lies. -/
def arrowOffsetY : Nat := 90

/-- A point of the plane. -/
structure Point where
  x : Nat
  y : Nat
  deriving DecidableEq

/-- The place of an index on the grid. -/
def place (index : Nat) : Point :=
  ⟨index % columns * columnStep, index / columns * rowStep⟩

/-- The upper left corner of the rectangle with an index. -/
def rectanglePlace (index : Nat) : Point :=
  place index

/-- The beginning of the arrow with an index. -/
def arrowPlace (index : Nat) : Point :=
  ⟨arrowOffsetX + (place index).x, arrowOffsetY + (place index).y⟩

/-- A point as data. -/
def Point.value (point : Point) : Value :=
  .object [("x", .ofNat point.x), ("y", .ofNat point.y)]

/-- The members that every element begins with. -/
def header (kind id : String) : List (String × Value) :=
  [("type", .text kind), ("version", .ofNat 1), ("versionNonce", .ofNat 0),
    ("isDeleted", .bool false), ("id", .text id)]

/-- The rectangle of a node. -/
def rectangle (node : Node) (index : Nat) : Value :=
  let corner := rectanglePlace index
  .object (header "rectangle" node.id ++
    [("x", .ofNat corner.x), ("y", .ofNat corner.y), ("width", .ofNat nodeWidth),
      ("height", .ofNat nodeHeight), ("angle", .ofNat 0), ("strokeColor", .text "#1e293b"),
      ("backgroundColor", .text "#ffffff"), ("roughness", .ofNat 1), ("seed", .ofNat index),
      ("text", .text node.caption), ("fontSize", .ofNat 20)])

/-- The ends of an edge, and its label if it has one. -/
def ends (edge : Edge) : Value :=
  .object ([("source", .text edge.source), ("target", .text edge.target)] ++
    (edge.caption?.map fun label => ("label", Value.text label)).toList)

/-- The id of the arrow with an index. -/
def arrowId (index : Nat) : String :=
  "edge_" ++ toString index

/-- The arrow of an edge. -/
def arrow (edge : Edge) (index : Nat) : Value :=
  let start := arrowPlace index
  .object (header "arrow" (arrowId index) ++
    [("points", .array [Point.value ⟨0, 0⟩, Point.value ⟨arrowLength, 0⟩]),
      ("x", .ofNat start.x), ("y", .ofNat start.y), ("customData", ends edge)])

/-- The elements of a scene: the rectangles of the nodes, then the arrows of the edges. -/
def elements (graph : Graph) : List Value :=
  graph.nodes.mapIdx (fun index node => rectangle node index) ++
    graph.edges.mapIdx fun index edge => arrow edge index

/-- The scene of a graph. -/
def scene (graph : Graph) : Value :=
  .object
    [("type", .text "excalidraw"), ("version", .ofNat 2), ("source", .text "text2diagram"),
      ("elements", .array (elements graph)), ("appState", .object [])]

/-- The text of a graph's scene. -/
def render (graph : Graph) : String :=
  (scene graph).pretty

end PromptDiagram.Scene
