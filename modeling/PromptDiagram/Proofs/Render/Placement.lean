import Mathlib.Algebra.Order.Monoid.Prod
import Mathlib.Algebra.Order.Ring.Rat
import Mathlib.Analysis.Convex.Segment
import Mathlib.Order.CompletePartialOrder
import PromptDiagram.Proofs.Render.Scene

/-!
# Where elements lie

A rectangle covers the points between its corners, and an arrow those between its ends. On the grid
no two elements share a point: rectangles and arrows of different indices differ in their column or
row, and the arrows of a row lie in the gap below its rectangles.

All coordinates are natural numbers. Points are rational, so that elements are apart not only at
the points of the grid.
-/

namespace PromptDiagram.Scene

open Json

/-! ## Regions of elements -/

/-- The points of a box with a given upper left corner. -/
def box (corner : Point) (width height : Nat) : Set (ℚ × ℚ) :=
  Set.Icc ((corner.x : ℚ), (corner.y : ℚ)) ((corner.x : ℚ) + width, (corner.y : ℚ) + height)

/-- The points between two points. -/
def stretch (first last : Point) : Set (ℚ × ℚ) :=
  segment ℚ ((first.x : ℚ), (first.y : ℚ)) ((last.x : ℚ), (last.y : ℚ))

/-- The point that the members of an object make. -/
def point? (members : List (String × Value)) : Option Point := do
  let x ← found? natural? members "x"
  let y ← found? natural? members "y"
  return ⟨x, y⟩

/-- The region that an element covers. The points of an arrow count from its beginning. -/
def region? (members : List (String × Value)) : Option (Set (ℚ × ℚ)) := do
  let type ← found? Value.text? members "type"
  let start ← point? members
  match type with
  | "rectangle" =>
    let width ← found? natural? members "width"
    let height ← found? natural? members "height"
    return box start width height
  | "arrow" =>
    match ← found? (Value.list? (Value.object? point?)) members "points" with
    | [first, last] =>
      return stretch ⟨start.x + first.x, start.y + first.y⟩ ⟨start.x + last.x, start.y + last.y⟩
    | _ => none
  | _ => none

/-- A rectangle covers a box of its width and height. -/
theorem region?_rectangle (node : Node) (index : Nat) :
    Value.object? region? (rectangle node index) = some (box (rectanglePlace index) 180 60) := by
  simp [rectangle, header, Value.object?, region?, point?, found?, Value.member?,
    Dictionary.lookup_cons_eq_ite, Value.text?, natural?, Value.ofNat, nodeWidth, nodeHeight]

/-- An arrow covers a level stretch of its length. -/
theorem region?_arrow (edge : Edge) (index : Nat) :
    Value.object? region? (arrow edge index) = some (stretch (arrowPlace index)
      ⟨(arrowPlace index).x + 120, (arrowPlace index).y⟩) := by
  have points : found? (Value.list? (Value.object? point?)) (header "arrow" (arrowId index) ++
      [("points", .array [Point.value ⟨0, 0⟩, Point.value ⟨arrowLength, 0⟩]),
        ("x", .ofNat (arrowPlace index).x), ("y", .ofNat (arrowPlace index).y),
        ("customData", ends edge)]) "points" = some [⟨0, 0⟩, ⟨arrowLength, 0⟩] := rfl
  simp only [arrow, Value.object?, region?, points]
  simp [header, point?, found?, Value.member?, Dictionary.lookup_cons_eq_ite, Value.text?,
    natural?, Value.ofNat, arrowLength]

/-- The regions of the rectangles of so many nodes, then those of the arrows of so many edges. -/
def regions (nodes edges : Nat) : List (Set (ℚ × ℚ)) :=
  (List.range nodes).map (fun i => box (rectanglePlace i) 180 60) ++
    (List.range edges).map fun j =>
      stretch (arrowPlace j) ⟨(arrowPlace j).x + 120, (arrowPlace j).y⟩

/-- Every element of a scene covers a region. -/
theorem map_region?_elements (graph : Graph) :
    (elements graph).map (Value.object? region?) =
      (regions graph.nodes.length graph.edges.length).map some := by
  have rectangles :
      (graph.nodes.mapIdx fun index node => rectangle node index).map (Value.object? region?) =
        ((List.range graph.nodes.length).map fun i => box (rectanglePlace i) 180 60).map some := by
    apply List.ext_getElem <;> simp [region?_rectangle]
  have arrows :
      (graph.edges.mapIdx fun index edge => arrow edge index).map (Value.object? region?) =
        ((List.range graph.edges.length).map fun j =>
          stretch (arrowPlace j) ⟨(arrowPlace j).x + 120, (arrowPlace j).y⟩).map some := by
    apply List.ext_getElem <;> simp [region?_arrow]
  rw [elements, List.map_append, rectangles, arrows, regions, List.map_append]

/-! ## Apartness -/

/-- Boxes are apart where one ends, in one of the directions, before the other begins. -/
theorem disjoint_box {a b : Point} {width height width' height' : Nat}
    (apart : a.x + width < b.x ∨ b.x + width' < a.x ∨ a.y + height < b.y ∨ b.y + height' < a.y) :
    Disjoint (box a width height) (box b width' height') := by
  rw [Set.disjoint_left]
  rintro ⟨x, y⟩ ⟨⟨left, top⟩, ⟨right, bottom⟩⟩ ⟨⟨left', top'⟩, ⟨right', bottom'⟩⟩
  rcases apart with before | before | before | before
  · have before : (a.x : ℚ) + width < b.x := by exact_mod_cast before
    exact absurd (right.trans_lt (before.trans_le left')) (lt_irrefl x)
  · have before : (b.x : ℚ) + width' < a.x := by exact_mod_cast before
    exact absurd (right'.trans_lt (before.trans_le left)) (lt_irrefl x)
  · have before : (a.y : ℚ) + height < b.y := by exact_mod_cast before
    exact absurd (bottom.trans_lt (before.trans_le top')) (lt_irrefl y)
  · have before : (b.y : ℚ) + height' < a.y := by exact_mod_cast before
    exact absurd (bottom'.trans_lt (before.trans_le top)) (lt_irrefl y)

/-- A level stretch is a part of the box without height. -/
theorem stretch_subset_box (start : Point) (length : Nat) :
    stretch start ⟨start.x + length, start.y⟩ ⊆ box start length 0 := by
  have ordered : ((start.x : ℚ), (start.y : ℚ)) ≤ ((start.x : ℚ) + length, (start.y : ℚ)) :=
    ⟨le_add_of_nonneg_right (Nat.cast_nonneg length), le_rfl⟩
  simpa [stretch, box] using segment_subset_Icc (𝕜 := ℚ) ordered

/-- Different indices have different columns or rows. -/
theorem place_ne {i j : Nat} (differ : i ≠ j) :
    i % columns ≠ j % columns ∨ i / columns ≠ j / columns := by
  unfold columns
  omega

/-- The rectangles of different nodes are apart. -/
theorem disjoint_rectangles {i j : Nat} (differ : i ≠ j) :
    Disjoint (box (rectanglePlace i) 180 60) (box (rectanglePlace j) 180 60) := by
  have places := place_ne differ
  apply disjoint_box
  simp only [rectanglePlace, place, columnStep, rowStep]
  omega

/-- The arrows of different edges are apart. -/
theorem disjoint_arrows {i j : Nat} (differ : i ≠ j) :
    Disjoint (box (arrowPlace i) 120 0) (box (arrowPlace j) 120 0) := by
  have places := place_ne differ
  apply disjoint_box
  simp only [arrowPlace, arrowOffsetX, arrowOffsetY, place, columnStep, rowStep]
  omega

/-- An arrow lies below the rectangles of its row and above those of the next one. -/
theorem disjoint_rectangle_arrow (i j : Nat) :
    Disjoint (box (rectanglePlace i) 180 60) (box (arrowPlace j) 120 0) := by
  apply disjoint_box
  simp only [rectanglePlace, arrowPlace, arrowOffsetX, arrowOffsetY, place, columnStep, rowStep]
  omega

/-- Lists of regions that are made of different indices are apart if those of two indices are. -/
theorem pairwise_map_range {region : Nat → Set (ℚ × ℚ)}
    (apart : ∀ i j, i ≠ j → Disjoint (region i) (region j)) (count : Nat) :
    ((List.range count).map region).Pairwise Disjoint := by
  rw [List.pairwise_map]
  exact List.pairwise_lt_range.imp fun less => apart _ _ (Nat.ne_of_lt less)

/-- No two regions have a point in common. -/
theorem pairwise_regions (nodes edges : Nat) : (regions nodes edges).Pairwise Disjoint := by
  refine List.pairwise_append.mpr ⟨?_, ?_, ?_⟩
  · exact pairwise_map_range (fun i j => disjoint_rectangles) nodes
  · refine pairwise_map_range (fun i j differ => ?_) edges
    exact (disjoint_arrows differ).mono (stretch_subset_box _ 120) (stretch_subset_box _ 120)
  · intro rectangle mem arrow mem'
    obtain ⟨i, -, rfl⟩ := List.mem_map.mp mem
    obtain ⟨j, -, rfl⟩ := List.mem_map.mp mem'
    exact (disjoint_rectangle_arrow i j).mono_right (stretch_subset_box _ 120)

/-- The text of a scene is that of an object, and of no other value of whole numbers, whose
`elements` cover regions of the plane: each node has a rectangle of 180 by 60, each edge a level
arrow of length 120, and no two of all these have a point in common. -/
theorem elements_apart (graph : Graph) :
    ∃ members items, ∃ covered : List (Set (ℚ × ℚ)),
      (Value.object members).pretty = render graph ∧
      (∀ other : Value, other.isWhole = true → other.pretty = render graph →
        other = .object members) ∧
      Value.member? members "elements" = some (.array items) ∧
      items.map (Value.object? region?) = covered.map some ∧
      covered.length = graph.nodes.length + graph.edges.length ∧
      (∀ i < graph.nodes.length, ∃ corner, covered[i]? = some (box corner 180 60)) ∧
      (∀ j < graph.edges.length, ∃ start : Point, covered[graph.nodes.length + j]? =
        some (stretch start ⟨start.x + 120, start.y⟩)) ∧
      covered.Pairwise Disjoint := by
  refine ⟨_, elements graph, regions graph.nodes.length graph.edges.length, rfl,
    fun other whole same => pretty_injective whole (isWhole_scene graph) same, rfl,
    map_region?_elements graph, by simp [regions], fun i drawn => ?_, fun j drawn => ?_,
    pairwise_regions _ _⟩
  · refine ⟨rectanglePlace i, ?_⟩
    rw [regions, List.getElem?_append_left (by simpa using drawn)]
    simp [drawn]
  · refine ⟨arrowPlace j, ?_⟩
    rw [regions, List.getElem?_append_right (by simp)]
    simp [drawn]

end PromptDiagram.Scene
