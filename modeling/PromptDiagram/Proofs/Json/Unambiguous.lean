import PromptDiagram.Proofs.Json.Fitting
import PromptDiagram.Proofs.Json.Layout
import PromptDiagram.Proofs.Json.Quoting

/-!
# Texts that tell their value

A value whose numbers are whole has a text of its own in each layout, however large the numbers
and however deep the value. More is true and carries the proof: the text also tells where it ends,
unless more digits follow a number. Which kind a value is of can be seen from its first character,
so two equal texts are compared kind by kind, items and members one after the other.
-/

namespace PromptDiagram.Json

open Numeric Text

/-! ## Values of whole numbers -/

/-- A property of values that passes from the items to an array, and from the values of members to
an object, holds of every value. -/
@[elab_as_elim]
theorem Value.induction {motive : Value → Prop} (null : motive .null)
    (bool : ∀ b, motive (.bool b)) (number : ∀ n, motive (.number n))
    (text : ∀ s, motive (.text s))
    (array : ∀ items, (∀ item ∈ items, motive item) → motive (.array items))
    (object : ∀ members, (∀ member ∈ members, motive member.2) → motive (.object members)) :
    ∀ value, motive value
  | .null => null
  | .bool b => bool b
  | .number n => number n
  | .text s => text s
  | .array items => array items fun item _ => induction null bool number text array object item
  | .object members =>
    object members fun (_, value) _ => induction null bool number text array object value
termination_by value => sizeOf value
decreasing_by
  all_goals
    have smaller := List.sizeOf_lt_of_mem ‹_ ∈ _›
    simp only [Value.array.sizeOf_spec, Value.object.sizeOf_spec, Prod.mk.sizeOf_spec] at smaller ⊢
    omega

mutual

/-- Whether every number within a value is whole. -/
def Value.isWhole : Value → Bool
  | .number n => n.isWhole
  | .array items => areWhole items
  | .object members => areWholeMembers members
  | _ => true

/-- Whether every number within any of the items is whole. -/
def areWhole : List Value → Bool
  | [] => true
  | item :: rest => item.isWhole && areWhole rest

/-- Whether every number within any of the members is whole. -/
def areWholeMembers : List (String × Value) → Bool
  | [] => true
  | (_, value) :: rest => value.isWhole && areWholeMembers rest

end

/-- All numbers within items are whole if and only if those within each item are. -/
theorem areWhole_iff {items : List Value} :
    areWhole items = true ↔ ∀ item ∈ items, item.isWhole = true := by
  induction items with
  | nil => simp [areWhole]
  | cons item items ih => simp [areWhole, ih]

/-- All numbers within members are whole if and only if those within each value are. -/
theorem areWholeMembers_iff {members : List (String × Value)} :
    areWholeMembers members = true ↔ ∀ member ∈ members, member.2.isWhole = true := by
  induction members with
  | nil => simp [areWholeMembers]
  | cons member members ih =>
    simp only [areWholeMembers, Bool.and_eq_true, ih, List.forall_mem_cons]

/-! ## Tokens -/

variable {rest rest' : List Char}

/-- Digits that no digit follows tell their number. -/
theorem decimalDigits_append_injective {n m : Nat} (stops : Stops isDigit rest)
    (stops' : Stops isDigit rest') (same : decimalDigits n ++ rest = decimalDigits m ++ rest') :
    n = m ∧ rest = rest' := by
  have digits : decimalDigits n = decimalDigits m := by
    have taken := congrArg (List.takeWhile isDigit) same
    rwa [takeWhile_run (fun _ mem => isDigit_of_mem_decimalDigits mem) stops,
      takeWhile_run (fun _ mem => isDigit_of_mem_decimalDigits mem) stops'] at taken
  have numbers : n = m := by
    have values := congrArg (fun digits => Nat.ofDigitChars 10 digits 0) digits
    simpa only [decimalDigits, Nat.ofDigitChars_ten_toDigits] using values
  subst numbers
  exact ⟨rfl, List.append_cancel_left same⟩

/-- A natural number is not written like a negative one. -/
theorem decimalDigits_append_ne (n : Nat) : decimalDigits n ++ rest ≠ '-' :: rest' := by
  obtain ⟨c, tail, digits, digit⟩ := decimalDigits_eq_cons n
  rw [digits, List.cons_append]
  rintro same
  exact ne_of_isDigit digit rfl (List.cons.inj same).1

/-- The text of a whole number tells the number. -/
theorem Number.chars_append_injective {n m : Number} (whole : n.isWhole = true)
    (whole' : m.isWhole = true) (stops : Stops isDigit rest) (stops' : Stops isDigit rest')
    (same : n.chars ++ rest = m.chars ++ rest') : n = m ∧ rest = rest' := by
  cases n with
  | natural n =>
    cases m with
    | natural m =>
      obtain ⟨rfl, behind⟩ := decimalDigits_append_injective stops stops' same
      exact ⟨rfl, behind⟩
    | negative m => exact absurd same (decimalDigits_append_ne n)
    | double | single => simp [Number.isWhole] at whole'
  | negative n =>
    cases m with
    | natural m => exact absurd same.symm (decimalDigits_append_ne m)
    | negative m =>
      obtain ⟨rfl, behind⟩ := decimalDigits_append_injective stops stops' (List.cons.inj same).2
      exact ⟨rfl, behind⟩
    | double | single => simp [Number.isWhole] at whole'
  | double | single => simp [Number.isWhole] at whole

/-- Texts of the same symbols are the same. -/
theorem symbols_injective {text text' : List Char} (same : symbols text = symbols text') :
    text = text' :=
  (List.map_inj_right fun _ _ same => Symbol.char.inj same).mp same

/-- A string in quotation marks tells the string. -/
theorem quote_append_injective {s t : String} (same : quote s ++ rest = quote t ++ rest') :
    s = t ∧ rest = rest' := by
  obtain ⟨stop, read⟩ := readQuoted_quoted s 0 (symbols rest)
  obtain ⟨stop', read'⟩ := readQuoted_quoted t 0 (symbols rest')
  have inside : symbols (s.toList.flatMap escapeChar) ++ .char '"' :: symbols rest =
      symbols (t.toList.flatMap escapeChar) ++ .char '"' :: symbols rest' := by
    simpa [quote] using congrArg symbols same
  rw [inside, read'] at read
  simp only [Except.ok.injEq, Prod.mk.injEq, Name.mk.injEq, Cursor.mk.injEq] at read
  exact ⟨read.1.1.symm, symbols_injective read.2.2.symm⟩

/-! ## First characters -/

/-- The kind of values that begin with a character, if there is one. -/
def opened? (c : Char) : Option Kind :=
  if c == 'n' then some .null
  else if c == 't' || c == 'f' then some .boolean
  else if c == '"' then some .string
  else if c == '[' then some .array
  else if c == '{' then some .object
  else if c == '-' || isDigit c then some .number
  else none

/-- A digit begins a number. -/
theorem opened?_digit {c : Char} (digit : isDigit c = true) : opened? c = some .number := by
  have n : c ≠ 'n' := ne_of_isDigit digit rfl
  have t : c ≠ 't' := ne_of_isDigit digit rfl
  have f : c ≠ 'f' := ne_of_isDigit digit rfl
  have quote : c ≠ '"' := ne_of_isDigit digit rfl
  have bracket : c ≠ '[' := ne_of_isDigit digit rfl
  have brace : c ≠ '{' := ne_of_isDigit digit rfl
  simp [opened?, n, t, f, quote, bracket, brace, digit]

variable {layout : Layout}

/-- The first character of a value tells its kind. -/
theorem laid_eq_cons (layout : Layout) (level : Nat) {value : Value}
    (whole : value.isWhole = true) :
    ∃ c tail, value.laid layout level = c :: tail ∧ opened? c = some value.kind := by
  cases value with
  | null => exact ⟨'n', _, rfl, rfl⟩
  | bool b => cases b <;> exact ⟨_, _, rfl, rfl⟩
  | number n =>
    cases n with
    | natural n =>
      obtain ⟨c, tail, digits, digit⟩ := decimalDigits_eq_cons n
      exact ⟨c, tail, digits, opened?_digit digit⟩
    | negative n => exact ⟨'-', _, rfl, rfl⟩
    | double | single => simp [Value.isWhole, Number.isWhole] at whole
  | text s => exact ⟨'"', _, rfl, rfl⟩
  | array items => cases items <;> exact ⟨'[', _, rfl, rfl⟩
  | object members => rcases members with _ | ⟨⟨name, value⟩, members⟩ <;> exact ⟨'{', _, rfl, rfl⟩

/-- Values with the same text are of one kind. -/
theorem kind_eq_of_laid {level : Nat} {value other : Value} (whole : value.isWhole = true)
    (whole' : other.isWhole = true)
    (same : value.laid layout level ++ rest = other.laid layout level ++ rest') :
    value.kind = other.kind := by
  obtain ⟨c, tail, written, kind⟩ := laid_eq_cons layout level whole
  obtain ⟨d, tail', written', kind'⟩ := laid_eq_cons layout level whole'
  rw [written, written'] at same
  obtain rfl : c = d := (List.cons.inj same).1
  exact Option.some.inj (kind.symm.trans kind')

/-- A value does not begin with a character that begins no value. -/
theorem head?_laid_ne {level : Nat} {value : Value} (whole : value.isWhole = true) {c : Char}
    (opens : opened? c = none) : (value.laid layout level ++ rest).head? ≠ some c := by
  obtain ⟨d, tail, written, kind⟩ := laid_eq_cons layout level whole
  rw [written]
  intro same
  obtain rfl : d = c := Option.some.inj same
  rw [opens] at kind
  cases kind

/-- A gap does not make a text begin with a character that is no blank. -/
theorem gap_append_ne {level : Nat} {c : Char} (visible : isSpace c = false) {text : List Char}
    (other : text.head? ≠ some c) : layout.gap level ++ text ≠ c :: rest := by
  intro same
  cases gap : layout.gap level with
  | nil =>
    rw [gap, List.nil_append] at same
    exact other (congrArg List.head? same)
  | cons d blanks =>
    rw [gap] at same
    obtain rfl : d = c := (List.cons.inj same).1
    have blank := layout.isSpace_gap level d (by rw [gap]; exact List.mem_cons_self)
    rw [visible] at blank
    cases blank

/-! ## Values -/

/-- A text that carries no number on begins with no digit. -/
theorem stops_of_endsNumber (ends : EndsNumber (symbols rest)) : Stops isDigit rest := by
  cases rest with
  | nil => exact stops_nil isDigit
  | cons c rest =>
    have other := ends c rfl
    simp only [isNumeric, Bool.or_eq_false_iff] at other
    exact stops_cons.mpr other.1.1.1

/-- What may stand behind an item carries no number on. -/
theorem endsNumber_items (layout : Layout) (level : Nat) (items : List Value) (rest : List Char) :
    EndsNumber (symbols (laidItems layout level items ++ rest)) := by
  cases items with
  | nil =>
    rw [laidItems, List.append_assoc, symbols_append]
    exact endsNumber_spaces (layout.isSpace_gap level) (endsNumber_char rfl _)
  | cons item items => exact endsNumber_char rfl _

/-- What may stand behind a member carries no number on. -/
theorem endsNumber_members (layout : Layout) (level : Nat) (members : List (String × Value))
    (rest : List Char) : EndsNumber (symbols (laidMembers layout level members ++ rest)) := by
  cases members with
  | nil =>
    rw [laidMembers, List.append_assoc, symbols_append]
    exact endsNumber_spaces (layout.isSpace_gap level) (endsNumber_char rfl _)
  | cons member members => exact endsNumber_char rfl _

variable (layout)

/-- Whether the text of a value in a layout tells the value, and where it ends unless it is a number
that goes on. -/
def Tells (value : Value) : Prop :=
  ∀ (level : Nat) (other : Value) (rest rest' : List Char),
    value.isWhole = true → other.isWhole = true →
    EndsNumber (symbols rest) → EndsNumber (symbols rest') →
    value.laid layout level ++ rest = other.laid layout level ++ rest' →
    value = other ∧ rest = rest'

/-- Whether the text of the items behind the first one tells them and where they end. -/
def ItemsTell (items : List Value) : Prop :=
  ∀ (level : Nat) (others : List Value) (rest rest' : List Char),
    areWhole items = true → areWhole others = true →
    laidItems layout level items ++ rest = laidItems layout level others ++ rest' →
    items = others ∧ rest = rest'

/-- Whether the text of the members behind the first one tells them and where they end. -/
def MembersTell (members : List (String × Value)) : Prop :=
  ∀ (level : Nat) (others : List (String × Value)) (rest rest' : List Char),
    areWholeMembers members = true → areWholeMembers others = true →
    laidMembers layout level members ++ rest = laidMembers layout level others ++ rest' →
    members = others ∧ rest = rest'

variable {layout} {level : Nat}

/-- An item is told, and then what stands behind it. -/
theorem Tells.items {item next : Value} {items others : List Value} (tells : Tells layout item)
    (itemsTell : ItemsTell layout items) (whole : areWhole (item :: items) = true)
    (whole' : areWhole (next :: others) = true)
    (same : layout.gap (level + 1) ++ (item.laid layout (level + 1) ++
      (laidItems layout level items ++ rest)) =
        layout.gap (level + 1) ++ (next.laid layout (level + 1) ++
          (laidItems layout level others ++ rest'))) :
    item :: items = next :: others ∧ rest = rest' := by
  simp only [areWhole, Bool.and_eq_true] at whole whole'
  obtain ⟨rfl, behind⟩ := tells _ _ _ _ whole.1 whole'.1 (endsNumber_items layout level items rest)
    (endsNumber_items layout level others rest') (List.append_cancel_left same)
  obtain ⟨rfl, last⟩ := itemsTell _ _ _ _ whole.2 whole'.2 behind
  exact ⟨rfl, last⟩

/-- A member is told, its name before its value, and then what stands behind it. -/
theorem Tells.members {name named : String} {value next : Value}
    {members others : List (String × Value)} (tells : Tells layout value)
    (membersTell : MembersTell layout members)
    (whole : areWholeMembers ((name, value) :: members) = true)
    (whole' : areWholeMembers ((named, next) :: others) = true)
    (same : layout.gap (level + 1) ++ (quote name ++ ':' :: (layout.space ++
      (value.laid layout (level + 1) ++ (laidMembers layout level members ++ rest)))) =
        layout.gap (level + 1) ++ (quote named ++ ':' :: (layout.space ++
          (next.laid layout (level + 1) ++ (laidMembers layout level others ++ rest'))))) :
    (name, value) :: members = (named, next) :: others ∧ rest = rest' := by
  simp only [areWholeMembers, Bool.and_eq_true] at whole whole'
  obtain ⟨rfl, colon⟩ := quote_append_injective (List.append_cancel_left same)
  obtain ⟨rfl, behind⟩ := tells _ _ _ _ whole.1 whole'.1
    (endsNumber_members layout level members rest) (endsNumber_members layout level others rest')
    (List.append_cancel_left (List.cons.inj colon).2)
  obtain ⟨rfl, last⟩ := membersTell _ _ _ _ whole.2 whole'.2 behind
  exact ⟨rfl, last⟩

/-- Items are told if each of them is. -/
theorem itemsTell {items : List Value} (tells : ∀ item ∈ items, Tells layout item) :
    ItemsTell layout items := by
  induction items with
  | nil =>
    intro level others rest rest' _ _ same
    cases others with
    | nil => exact ⟨rfl, List.append_cancel_left same⟩
    | cons next others =>
      simp only [laidItems, List.cons_append, List.append_assoc] at same
      exact absurd same (gap_append_ne rfl (by simp))
  | cons item items ih =>
    intro level others rest rest' whole whole' same
    have behind := ih fun item mem => tells item (List.mem_cons_of_mem _ mem)
    cases others with
    | nil =>
      simp only [laidItems, List.cons_append, List.append_assoc] at same
      exact absurd same.symm (gap_append_ne rfl (by simp))
    | cons next others =>
      simp only [laidItems, List.cons_append, List.append_assoc, List.cons.injEq,
        true_and] at same
      exact (tells item List.mem_cons_self).items behind whole whole' same

/-- Members are told if the value of each of them is. -/
theorem membersTell {members : List (String × Value)}
    (tells : ∀ member ∈ members, Tells layout member.2) : MembersTell layout members := by
  induction members with
  | nil =>
    intro level others rest rest' _ _ same
    cases others with
    | nil => exact ⟨rfl, List.append_cancel_left same⟩
    | cons next others =>
      simp only [laidMembers, List.cons_append, List.append_assoc] at same
      exact absurd same (gap_append_ne rfl (by simp))
  | cons member members ih =>
    intro level others rest rest' whole whole' same
    have behind := ih fun member mem => tells member (List.mem_cons_of_mem _ mem)
    cases others with
    | nil =>
      simp only [laidMembers, List.cons_append, List.append_assoc] at same
      exact absurd same.symm (gap_append_ne rfl (by simp))
    | cons next others =>
      simp only [laidMembers, List.cons_append, List.append_assoc, List.cons.injEq,
        true_and] at same
      exact (tells member List.mem_cons_self).members behind whole whole' same

/-- An array is told if its items are. -/
theorem tells_array {items : List Value} (tells : ∀ item ∈ items, Tells layout item) :
    Tells layout (.array items) := by
  intro level other rest rest' whole whole' _ _ same
  cases other with
  | array others =>
    rw [Value.isWhole] at whole whole'
    rcases items with _ | ⟨item, items⟩ <;> rcases others with _ | ⟨next, others⟩ <;>
      simp only [Value.laid, List.cons_append, List.append_assoc, List.cons.injEq, true_and,
        List.nil_append] at same
    · exact ⟨rfl, same⟩
    · simp only [areWhole, Bool.and_eq_true] at whole'
      exact absurd same.symm (gap_append_ne rfl (head?_laid_ne whole'.1 rfl))
    · simp only [areWhole, Bool.and_eq_true] at whole
      exact absurd same (gap_append_ne rfl (head?_laid_ne whole.1 rfl))
    · have behind := itemsTell fun item mem => tells item (List.mem_cons_of_mem _ mem)
      obtain ⟨told, last⟩ := (tells item List.mem_cons_self).items behind whole whole' same
      exact ⟨congrArg Value.array told, last⟩
  | _ => cases kind_eq_of_laid whole whole' same

/-- An object is told if the values of its members are. -/
theorem tells_object {members : List (String × Value)}
    (tells : ∀ member ∈ members, Tells layout member.2) : Tells layout (.object members) := by
  intro level other rest rest' whole whole' _ _ same
  cases other with
  | object others =>
    rw [Value.isWhole] at whole whole'
    rcases members with _ | ⟨member, members⟩ <;> rcases others with _ | ⟨next, others⟩ <;>
      simp only [Value.laid, List.cons_append, List.append_assoc, List.cons.injEq, true_and,
        List.nil_append] at same
    · exact ⟨rfl, same⟩
    · exact absurd same.symm (gap_append_ne rfl (by simp [quote]))
    · exact absurd same (gap_append_ne rfl (by simp [quote]))
    · have behind := membersTell fun member mem => tells member (List.mem_cons_of_mem _ mem)
      obtain ⟨told, last⟩ := (tells member List.mem_cons_self).members behind whole whole' same
      exact ⟨congrArg Value.object told, last⟩
  | _ => cases kind_eq_of_laid whole whole' same

/-- A number is told if it is whole. -/
theorem tells_number (n : Number) : Tells layout (.number n) := by
  intro level other rest rest' whole whole' ends ends' same
  cases other with
  | number m =>
    obtain ⟨rfl, behind⟩ := Number.chars_append_injective whole whole' (stops_of_endsNumber ends)
      (stops_of_endsNumber ends') same
    exact ⟨rfl, behind⟩
  | _ => cases kind_eq_of_laid whole whole' same

/-- A string is told. -/
theorem tells_text (s : String) : Tells layout (.text s) := by
  intro level other rest rest' whole whole' _ _ same
  cases other with
  | text t =>
    obtain ⟨rfl, behind⟩ := quote_append_injective same
    exact ⟨rfl, behind⟩
  | _ => cases kind_eq_of_laid whole whole' same

/-- A truth value is told. -/
theorem tells_bool (b : Bool) : Tells layout (.bool b) := by
  intro level other rest rest' whole whole' _ _ same
  cases other with
  | bool c => cases b <;> cases c <;> simp_all [Value.laid, boolText]
  | _ => cases kind_eq_of_laid whole whole' same

/-- Null is told. -/
theorem tells_null : Tells layout .null := by
  intro level other rest rest' whole whole' _ _ same
  cases other with
  | null => exact ⟨rfl, List.append_cancel_left same⟩
  | _ => cases kind_eq_of_laid whole whole' same

/-- The text of a value in a layout tells the value and where it ends. -/
theorem tells (layout : Layout) (value : Value) : Tells layout value := by
  induction value using Value.induction with
  | null => exact tells_null
  | bool b => exact tells_bool b
  | number n => exact tells_number n
  | text s => exact tells_text s
  | array items ih => exact tells_array ih
  | object members ih => exact tells_object ih

/-- Values of whole numbers that are written alike with indentation are the same. -/
theorem pretty_injective {value other : Value} (whole : value.isWhole = true)
    (whole' : other.isWhole = true) (same : value.pretty = other.pretty) : value = other := by
  have texts : value.laid .airy 0 ++ [] = other.laid .airy 0 ++ [] := by
    rw [List.append_nil, List.append_nil, ← indented_eq_laid, ← indented_eq_laid]
    exact String.ofList_inj.mp same
  have ends : EndsNumber (symbols []) := by simp [EndsNumber]
  exact (tells .airy value 0 other [] [] whole whole' ends ends texts).1

end PromptDiagram.Json
