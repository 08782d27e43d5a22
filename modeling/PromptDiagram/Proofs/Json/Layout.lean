import PromptDiagram.Json.Token

/-!
# Layouts

Both ways to write a value are one with different blanks: a layout says what stands before an item
or a member at a level of indentation and what stands behind a colon. What is proved of texts in
any layout holds of both.
-/

namespace PromptDiagram.Json

/-- The blanks between the tokens of a text. -/
structure Layout where
  /-- What stands before an item or a member, and before a closing bracket or brace. -/
  gap : Nat → List Char
  /-- What stands behind a colon. -/
  space : List Char
  isSpace_gap : ∀ level, ∀ c ∈ gap level, isSpace c = true
  isSpace_space : ∀ c ∈ space, isSpace c = true

namespace Layout

/-- The layout without blanks. -/
def dense : Layout where
  gap _ := []
  space := []
  isSpace_gap := by simp
  isSpace_space := by simp

/-- The layout with a line for each item and member. -/
def airy : Layout where
  gap := newLine
  space := [' ']
  isSpace_gap := by
    intro level c mem
    rcases List.mem_cons.mp mem with rfl | mem
    · decide
    · rw [List.eq_of_mem_replicate mem]
      decide
  isSpace_space := List.all_eq_true.mp rfl

end Layout

mutual

/-- A value in a layout, at a level. -/
def Value.laid (layout : Layout) (level : Nat) : Value → List Char
  | .null => nullText
  | .bool b => boolText b
  | .number n => n.chars
  | .text s => quote s
  | .array [] => ['[', ']']
  | .array (item :: rest) =>
    '[' :: layout.gap (level + 1) ++ item.laid layout (level + 1) ++ laidItems layout level rest
  | .object [] => ['{', '}']
  | .object ((name, value) :: rest) =>
    '{' :: layout.gap (level + 1) ++ quote name ++ ':' :: layout.space ++
      value.laid layout (level + 1) ++ laidMembers layout level rest

/-- The items behind the first one, with the closing bracket. -/
def laidItems (layout : Layout) (level : Nat) : List Value → List Char
  | [] => layout.gap level ++ [']']
  | item :: rest =>
    ',' :: layout.gap (level + 1) ++ item.laid layout (level + 1) ++ laidItems layout level rest

/-- The members behind the first one, with the closing brace. -/
def laidMembers (layout : Layout) (level : Nat) : List (String × Value) → List Char
  | [] => layout.gap level ++ ['}']
  | (name, value) :: rest =>
    ',' :: layout.gap (level + 1) ++ quote name ++ ':' :: layout.space ++
      value.laid layout (level + 1) ++ laidMembers layout level rest

end

/-! ## Both layouts -/

mutual

/-- A value without blanks is a value in the dense layout, at any level. -/
theorem compact_eq_laid (level : Nat) : ∀ value : Value,
    value.compact = value.laid .dense level
  | .null => rfl
  | .bool _ => rfl
  | .number _ => rfl
  | .text _ => rfl
  | .array [] => rfl
  | .array (item :: rest) => by
    simp only [Value.compact, Value.laid, Layout.dense, compact_eq_laid (level + 1) item,
      compactItems_eq_laidItems level rest, List.cons_append, List.nil_append]
  | .object [] => rfl
  | .object ((name, value) :: rest) => by
    simp only [Value.compact, Value.laid, Layout.dense, compact_eq_laid (level + 1) value,
      compactMembers_eq_laidMembers level rest, List.cons_append,
      List.nil_append, List.append_assoc]

/-- The items behind the first one agree. -/
theorem compactItems_eq_laidItems (level : Nat) : ∀ items : List Value,
    compactItems items = laidItems .dense level items
  | [] => rfl
  | item :: rest => by
    simp only [compactItems, laidItems, Layout.dense, compact_eq_laid (level + 1) item,
      compactItems_eq_laidItems level rest, List.cons_append, List.nil_append]

/-- The members behind the first one agree. -/
theorem compactMembers_eq_laidMembers (level : Nat) : ∀ members : List (String × Value),
    compactMembers members = laidMembers .dense level members
  | [] => rfl
  | (name, value) :: rest => by
    simp only [compactMembers, laidMembers, Layout.dense, compact_eq_laid (level + 1) value,
      compactMembers_eq_laidMembers level rest, List.cons_append,
      List.nil_append, List.append_assoc]

end

mutual

/-- A value with indentation is a value in the airy layout. -/
theorem indented_eq_laid (level : Nat) : ∀ value : Value,
    value.indented level = value.laid .airy level
  | .null => rfl
  | .bool _ => rfl
  | .number _ => rfl
  | .text _ => rfl
  | .array [] => rfl
  | .array (item :: rest) => by
    simp only [Value.indented, Value.laid, Layout.airy, indented_eq_laid (level + 1) item,
      indentedItems_eq_laidItems level rest]
  | .object [] => rfl
  | .object ((name, value) :: rest) => by
    simp only [Value.indented, Value.laid, Layout.airy, indented_eq_laid (level + 1) value,
      indentedMembers_eq_laidMembers level rest, List.append_assoc, List.cons_append,
      List.nil_append]

/-- The items behind the first one agree. -/
theorem indentedItems_eq_laidItems (level : Nat) : ∀ items : List Value,
    indentedItems level items = laidItems .airy level items
  | [] => rfl
  | item :: rest => by
    simp only [indentedItems, laidItems, Layout.airy, indented_eq_laid (level + 1) item,
      indentedItems_eq_laidItems level rest]

/-- The members behind the first one agree. -/
theorem indentedMembers_eq_laidMembers (level : Nat) : ∀ members : List (String × Value),
    indentedMembers level members = laidMembers .airy level members
  | [] => rfl
  | (name, value) :: rest => by
    simp only [indentedMembers, laidMembers, Layout.airy, indented_eq_laid (level + 1) value,
      indentedMembers_eq_laidMembers level rest, List.append_assoc, List.cons_append,
      List.nil_append]

end

end PromptDiagram.Json
