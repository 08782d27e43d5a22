/-!
# Items amid text

Items stand anywhere in a text, and what lies between them is passed over. The lemmas say what the
items of a text are, place by place, for every kind of item that uses up text.
-/

namespace PromptDiagram.Notation

/-- The items that are found in at most so many steps: at each place the item that is read there,
else the items from one character further on. -/
def itemsWithin {α : Type} (item? : List Char → Option (α × List Char)) :
    Nat → List Char → List α
  | 0, _ => []
  | _ + 1, [] => []
  | steps + 1, c :: rest =>
    match item? (c :: rest) with
    | some (item, after) => item :: itemsWithin item? steps after
    | none => itemsWithin item? steps rest

/-- All items of a text. Every step uses up a character, so its length bounds the steps. -/
def items {α : Type} (item? : List Char → Option (α × List Char)) (text : List Char) : List α :=
  itemsWithin item? text.length text

/-- What is left behind each item is shorter than the text. -/
def Shortens {α : Type} (item? : List Char → Option (α × List Char)) : Prop :=
  ∀ {text item after}, item? text = some (item, after) → after.length < text.length

/-- More steps than there are characters find nothing more. -/
theorem itemsWithin_eq_items {α : Type} {item? : List Char → Option (α × List Char)}
    (shortens : Shortens item?) {steps : Nat} {text : List Char} (enough : text.length ≤ steps) :
    itemsWithin item? steps text = items item? text := by
  suffices ∀ bound steps other : Nat, ∀ text : List Char, text.length ≤ bound →
      text.length ≤ steps → text.length ≤ other →
      itemsWithin item? steps text = itemsWithin item? other text from
    this text.length steps text.length text (Nat.le_refl _) enough (Nat.le_refl _)
  intro bound
  induction bound with
  | zero =>
    intro steps other text short _ _
    obtain rfl : text = [] := List.length_eq_zero_iff.1 (Nat.le_zero.1 short)
    cases steps <;> cases other <;> rfl
  | succ bound ih =>
    intro steps other text short hsteps hother
    match text, steps, other with
    | [], steps, other => cases steps <;> cases other <;> rfl
    | c :: rest, steps + 1, other + 1 =>
      simp only [List.length_cons] at short hsteps hother
      simp only [itemsWithin]
      cases found : item? (c :: rest) with
      | none => exact ih steps other rest (by omega) (by omega) (by omega)
      | some read =>
        have shorter := shortens found
        simp only [List.length_cons] at shorter
        simp only [ih steps other read.2 (by omega) (by omega) (by omega)]

/-- No text, no items. -/
theorem items_nil {α : Type} (item? : List Char → Option (α × List Char)) :
    items item? [] = [] := rfl

/-- Where no item is read, the items are those from one character further on. -/
theorem items_of_none {α : Type} {item? : List Char → Option (α × List Char)} {c : Char}
    {rest : List Char} (refused : item? (c :: rest) = none) :
    items item? (c :: rest) = items item? rest := by
  simp only [items, List.length_cons, itemsWithin, refused]

/-- Where an item is read, it is followed by the items of what is left. -/
theorem items_of_some {α : Type} {item? : List Char → Option (α × List Char)}
    (shortens : Shortens item?) {c : Char} {rest after : List Char} {item : α}
    (accepted : item? (c :: rest) = some (item, after)) :
    items item? (c :: rest) = item :: items item? after := by
  have shorter := shortens accepted
  simp only [List.length_cons] at shorter
  simp only [items, List.length_cons, itemsWithin, accepted]
  rw [itemsWithin_eq_items shortens (by omega), items]

end PromptDiagram.Notation
