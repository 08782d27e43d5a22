/-!
# What is drawn and how

The family of a diagram and the direction in which it grows. Each has a name under which requests
ask for it, and a default for requests that do not.
-/

namespace PromptDiagram

/-- The family of a diagram. -/
inductive Diagram where
  | flow
  | entities
  deriving DecidableEq

/-- The direction in which a diagram grows. -/
inductive Direction where
  | down
  | right
  | up
  | left
  deriving DecidableEq

/-- The name of a family. -/
def Diagram.name : Diagram → String
  | .flow => "flow"
  | .entities => "er"

/-- The families by name. -/
def Diagram.named : List (String × Diagram) :=
  [("flow", .flow), ("er", .entities)]

/-- The name of a direction. -/
def Direction.name : Direction → String
  | .down => "TD"
  | .right => "LR"
  | .up => "BT"
  | .left => "RL"

/-- The directions by name. -/
def Direction.named : List (String × Direction) :=
  [("TD", .down), ("LR", .right), ("BT", .up), ("RL", .left)]

/-- The family that is drawn where none is asked for. -/
def Diagram.standard : Diagram := .flow

/-- The direction that is used where none is asked for. -/
def Direction.standard : Direction := .down

end PromptDiagram
