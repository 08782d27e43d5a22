import PromptDiagram.Graph
import PromptDiagram.Json.Value
import PromptDiagram.Text.Character

/-!
# The schema of graphs

A JSON value is checked against the schema of graphs member by member, and every violation is
noted with its path. The parts of a value are checked independently of each other. A graph comes
out only if nothing is violated, and then it has one node and one edge for each element.
-/

namespace PromptDiagram.Schema

open Json Text

/-- What is wrong at a path. -/
inductive Complaint where
  | missing
  | blank
  | expected (what : String) (found : Kind)
  deriving DecidableEq

/-- A complaint and its path. -/
structure Violation where
  path : String
  complaint : Complaint
  deriving DecidableEq

/-- A complaint in words. -/
def Complaint.describe : Complaint → String
  | .missing => "missing required field"
  | .blank => "must not be empty"
  | .expected what found => "expected " ++ what ++ ", found " ++ found.name

/-- A violation in words. -/
def Violation.describe (violation : Violation) : String :=
  violation.path ++ ": " ++ violation.complaint.describe

/-- What comes of a check: a result if one can be made, and the violations. -/
structure Checked (α : Type) where
  result : Option α
  violations : List Violation

/-- A check that made a result. -/
def Checked.accept {α : Type} (a : α) : Checked α := ⟨some a, []⟩

/-- A check that found a violation and made no result. -/
def Checked.reject {α : Type} (path : String) (complaint : Complaint) : Checked α :=
  ⟨none, [⟨path, complaint⟩]⟩

/-- The members of an object. -/
abbrev Members := List (String × Value)

/-- The path of a member. -/
def memberPath (path name : String) : String :=
  path ++ "." ++ name

/-- The path of an element. -/
def elementPath (path : String) (index : Nat) : String :=
  path ++ "[" ++ toString index ++ "]"

/-- A member that must be a string with a character that is no blank. -/
def requiredString (members : Members) (path name : String) : Checked String :=
  match Value.member? members name with
  | some (.text s) =>
    if isBlankString s then .reject (memberPath path name) .blank else .accept s
  | some value => .reject (memberPath path name) (.expected "string" value.kind)
  | none => .reject (memberPath path name) .missing

/-- A member that may be a string. -/
def optionalString (members : Members) (path name : String) : Checked (Option String) :=
  match Value.member? members name with
  | none | some .null => .accept none
  | some (.text s) => .accept (some s)
  | some value => .reject (memberPath path name) (.expected "string or null" value.kind)

/-- The violation of a property that is no string. -/
def propertyViolation? (path : String) (entry : String × Value) : Option Violation :=
  match entry.2 with
  | .text _ => none
  | value => some ⟨memberPath path entry.1, .expected "string" value.kind⟩

/-- The string of a property that is one. -/
def propertyEntry? (entry : String × Value) : Option (String × String) :=
  match entry.2 with
  | .text s => some (entry.1, s)
  | _ => none

/-- The member that may be an object of strings. Its members are checked in ascending order. -/
def properties (members : Members) (path : String) : Checked (Option (Dictionary String)) :=
  let path := memberPath path "props"
  match Value.member? members "props" with
  | none | some .null => .accept none
  | some (.object entries) =>
    let entries := (Dictionary.ofList entries).entries
    ⟨some (some (Dictionary.ofList (entries.filterMap propertyEntry?))),
      entries.filterMap (propertyViolation? path)⟩
  | some value => .reject path (.expected "object or null" value.kind)

/-- Check an element that must be an object. -/
def object {α : Type} (check : Members → String → Checked α) (path : String) :
    Value → Checked α
  | .object members => check members path
  | value => .reject path (.expected "object" value.kind)

/-- Check the members of a node. -/
def node (members : Members) (path : String) : Checked Node :=
  let id := requiredString members path "id"
  let label := optionalString members path "label"
  let kind := optionalString members path "kind"
  let props := properties members path
  ⟨id.result.map fun id =>
      { id, label := label.result.join, kind := kind.result.join, props := props.result.join },
    id.violations ++ label.violations ++ kind.violations ++ props.violations⟩

/-- Check the members of an edge. -/
def edge (members : Members) (path : String) : Checked Edge :=
  let source := requiredString members path "source"
  let target := requiredString members path "target"
  let label := optionalString members path "label"
  let kind := optionalString members path "kind"
  ⟨source.result.bind fun source => target.result.map fun target =>
      { source, target, label := label.result.join, kind := kind.result.join },
    source.violations ++ target.violations ++ label.violations ++ kind.violations⟩

/-- Check the elements of the array of a name. -/
def elements {α : Type} (check : Members → String → Checked α) (members : Members)
    (name : String) : Checked (List α) :=
  match Value.member? members name with
  | some (.array items) =>
    let checked := items.mapIdx fun index item => object check (elementPath name index) item
    ⟨some (checked.filterMap Checked.result), checked.flatMap Checked.violations⟩
  | some value => .reject name (.expected "array" value.kind)
  | none => .reject name .missing

/-- Check the members of a graph. -/
def graphMembers (members : Members) : Checked Graph :=
  let nodes := elements node members "nodes"
  let edges := elements edge members "edges"
  ⟨some ⟨nodes.result.getD [], edges.result.getD []⟩, nodes.violations ++ edges.violations⟩

/-- The violations of a value, in the order in which its parts are checked. -/
def violations : Value → List Violation
  | .object members => (graphMembers members).violations
  | value => [⟨"$", .expected "object" value.kind⟩]

/-- The graph that a value describes, or all violations of the schema. -/
def validate (value : Value) : Except (List Violation) Graph :=
  match value with
  | .object members =>
    match graphMembers members with
    | ⟨some graph, []⟩ => .ok graph
    | ⟨_, violations⟩ => .error violations
  | value => .error (violations value)

end PromptDiagram.Schema
