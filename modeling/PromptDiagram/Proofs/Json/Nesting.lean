import PromptDiagram.Proofs.Json.Locality
import PromptDiagram.Proofs.Json.Spelling
import PromptDiagram.Proofs.Json.Values

/-!
# Outlines of texts put together

What a text gives is said by a property of its outline, wherever the text stands. An array gives
items and an object gives members, each with the property of its own part, whatever blanks stand
between the parts. So a text of which only some parts matter gives what those parts are, and any
JSON text gives something that can be passed over.
-/

namespace PromptDiagram.Json

open Numeric Text

/-! ## What is given -/

/-- Whether a text gives an outline with a property and is then used up, wherever it stands before
something that no number goes on with. -/
structure Gives (text : List Char) (property : Outline → Prop) : Prop where
  opens : ∀ rest, Opens (symbols text ++ rest)
  found : ∀ (fuel offset : Nat) (rest : List Symbol), EndsNumber rest → 2 * text.length ≤ fuel →
    ∃ outline stop, outlineAt fuel ⟨offset, symbols text ++ rest⟩ = (outline, ⟨stop, rest⟩) ∧
      property outline

/-- Whether a text in quotation marks gives a name with a property. -/
def GivesName (text : List Char) (property : Except Fault String → Prop) : Prop :=
  ∃ inside, text = '"' :: inside ∧ ∀ (offset : Nat) (rest : List Symbol), ∃ content stop,
    readQuoted ⟨offset, symbols inside ++ rest⟩ = .ok (⟨content, stop⟩, ⟨stop, rest⟩) ∧
      property content

variable {text : List Char} {property : Outline → Prop}

/-- What a text gives has every property that follows. -/
theorem Gives.imp {weaker : Outline → Prop} (gives : Gives text property)
    (follows : ∀ outline, property outline → weaker outline) : Gives text weaker where
  opens := gives.opens
  found fuel offset rest ends bound := by
    obtain ⟨outline, stop, found, holds⟩ := gives.found fuel offset rest ends bound
    exact ⟨outline, stop, found, follows outline holds⟩

/-- A text that gives something is not empty. -/
theorem Gives.length_pos (gives : Gives text property) : 0 < text.length := by
  have begins := (gives.opens []).ne_nil
  rw [List.length_pos_iff]
  rintro rfl
  exact begins rfl

/-- Blanks before a value make no difference. -/
theorem outlineAt_congr (fuel : Nat) {cursor cursor' : Cursor} (same : cursor.skip = cursor'.skip) :
    outlineAt (fuel + 1) cursor = outlineAt (fuel + 1) cursor' := by
  simp only [outlineAt, same]

/-- A text gives the same behind blanks. -/
theorem Gives.behind (gives : Gives text property) {spaces : List Char} (blank : AreSpaces spaces)
    (fuel offset : Nat) {rest : List Symbol} (ends : EndsNumber rest)
    (bound : 2 * text.length ≤ fuel) :
    ∃ outline stop, outlineAt fuel ⟨offset, symbols spaces ++ (symbols text ++ rest)⟩ =
      (outline, ⟨stop, rest⟩) ∧ property outline := by
  obtain ⟨outline, stop, found, holds⟩ :=
    gives.found fuel (offset + spaces.length) rest ends bound
  refine ⟨outline, stop, ?_, holds⟩
  have positive := gives.length_pos
  obtain ⟨fuel, rfl⟩ : ∃ less, fuel = less + 1 := ⟨fuel - 1, by omega⟩
  rw [← found]
  apply outlineAt_congr
  have here : skipSpaces (offset + spaces.length) (symbols [] ++ (symbols text ++ rest)) = _ :=
    (gives.opens rest).skip (by simp) _
  exact ((gives.opens rest).skip blank offset).trans here.symm

/-! ## Scalars -/

/-- A text that begins with no bracket and no brace gives what its scalar is. -/
theorem gives_scalar {c : Char} {tail : List Char}
    (visible : isSpace c = false ∧ c ≠ '[' ∧ c ≠ ']' ∧ c ≠ '{' ∧ c ≠ '}')
    (found : ∀ (offset : Nat) (rest : List Symbol), EndsNumber rest → ∃ outline stop,
      scalarOutline ⟨offset, symbols (c :: tail) ++ rest⟩ = (outline, ⟨stop, rest⟩) ∧
        property outline) : Gives (c :: tail) property where
  opens rest := ⟨c, symbols tail ++ rest, rfl, visible.1, visible.2.2.1, visible.2.2.2.2⟩
  found fuel offset rest ends bound := by
    obtain ⟨fuel, rfl⟩ : ∃ less, fuel = less + 1 := ⟨fuel - 1, by simp at bound; omega⟩
    have here : Cursor.skip ⟨offset, symbols (c :: tail) ++ rest⟩ =
        ⟨offset, symbols (c :: tail) ++ rest⟩ := skipSpaces_char visible.1 offset _
    rw [outlineAt_scalar fuel (by rw [here]; simp [visible]) (by rw [here]; simp [visible]), here]
    exact found offset rest ends

/-- Null is found. -/
theorem gives_null : Gives nullText fun outline => ∃ start stop, outline = .word start .null stop :=
  gives_scalar (by decide) fun offset _ _ => ⟨_, offset + 4, rfl, offset, offset + 4, rfl⟩

/-- A truth value is found. -/
theorem gives_bool (b : Bool) :
    Gives (boolText b) fun outline => ∃ start stop, outline = .word start (.bool b) stop := by
  cases b with
  | true => exact gives_scalar (by decide) fun offset _ _ => ⟨_, _, rfl, offset, _, rfl⟩
  | false => exact gives_scalar (by decide) fun offset _ _ => ⟨_, _, rfl, offset, _, rfl⟩

/-- A number is found, and read as what its parts make. -/
theorem gives_number {numeral : Numeral} (spells : SpellsNumeral numeral text) :
    Gives text fun outline => ∃ start content stop, outline = .number start content stop ∧
      ∀ n, numeral.value = .ok n → content = .ok n := by
  have begins : ∃ c tail, text = c :: tail ∧ (c = '-' ∨ isDigit c = true) := by
    cases spells with
    | @mk negative whole fraction fractionText exponentText exponent is _ _ =>
      obtain ⟨c, tail, rfl⟩ := List.exists_cons_of_ne_nil is.1.1
      cases negative with
      | true => exact ⟨'-', _, rfl, .inl rfl⟩
      | false => exact ⟨c, _, rfl, .inr (is.1.2 c List.mem_cons_self)⟩
  obtain ⟨c, tail, rfl, numeric⟩ := begins
  have other {d : Char} (unlike : d ≠ '-') (nondigit : isDigit d = false) : c ≠ d := by
    rintro rfl
    simp [unlike, nondigit] at numeric
  refine gives_scalar ⟨?_, ?_, ?_, ?_, ?_⟩ fun offset rest ends => ?_
  case refine_1 =>
    simp only [isSpace, Bool.or_eq_false_iff, beq_eq_false_iff_ne]
    refine ⟨⟨⟨?_, ?_⟩, ?_⟩, ?_⟩ <;> exact other (by decide) rfl
  case refine_6 =>
    obtain ⟨content, stop, found, read⟩ := numberOutline_spelt spells offset ends
    have quote : c ≠ '"' := other (by decide) rfl
    have n : c ≠ 'n' := other (by decide) rfl
    have t : c ≠ 't' := other (by decide) rfl
    have f : c ≠ 'f' := other (by decide) rfl
    have number : (c == '-' || isDigit c) = true := by simpa using numeric
    refine ⟨_, stop, ?_, offset, content, stop, rfl, read⟩
    rw [← found]
    -- The other branches are ruled out by what the character differs from.
    simp [scalarOutline, number]
  all_goals exact other (by decide) rfl

/-- A string is found, whether it makes sense or not. -/
theorem IsString.givesName (is : IsString text) : GivesName text fun _ => True := by
  obtain ⟨inside, rfl⟩ := is.eq_cons
  refine ⟨inside, rfl, fun offset rest => ?_⟩
  obtain ⟨stop, found⟩ := readQuoted_of_isString is offset rest
  exact ⟨_, stop, found, trivial⟩

/-- A string is found as what it spells. -/
theorem SpellsString.givesName {s : String} (spells : SpellsString s text) :
    GivesName text fun content => content = .ok s := by
  obtain ⟨inside, rfl⟩ := spells.isString.eq_cons
  refine ⟨inside, rfl, fun offset rest => ?_⟩
  obtain ⟨stop, found⟩ := readQuoted_of_spellsString spells offset rest
  exact ⟨_, stop, found, rfl⟩

/-- What gives a name gives a string. -/
theorem GivesName.gives {named : Except Fault String → Prop} (gives : GivesName text named) :
    Gives text fun outline => ∃ start content stop, outline = .text start content stop ∧
      named content := by
  obtain ⟨inside, rfl, found⟩ := gives
  refine gives_scalar (by decide) fun offset rest _ => ?_
  obtain ⟨content, stop, quoted, holds⟩ := found (offset + 1) rest
  refine ⟨.text offset content stop, stop, ?_, offset, content, stop, rfl, holds⟩
  simp [scalarOutline, textOutline, quoted]

/-! ## Arrays -/

/-- No number goes on with what stands behind a part of a list. -/
theorem Closes.endsNumber {mark : Char} {parts : List (List Char)} (closes : Closes mark parts text)
    (other : isNumeric mark = false) (rest : List Symbol) : EndsNumber (symbols text ++ rest) := by
  cases closes with
  | last blank =>
    rw [symbols_append, List.append_assoc]
    exact endsNumber_spaces blank (endsNumber_char other rest)
  | next blank _ _ =>
    rw [symbols_append, List.append_assoc]
    exact endsNumber_spaces blank (endsNumber_char rfl _)

/-- An item that may begin a value is read behind a comma. -/
theorem itemsBehind_comma {text : List Symbol} (begins : Opens text) {spaces : List Char}
    (blank : AreSpaces spaces) (fuel offset : Nat) :
    itemsBehind fuel ⟨offset, .char ',' :: (symbols spaces ++ text)⟩ =
      itemsAt fuel offset ⟨offset + 1 + spaces.length, text⟩ := by
  have empty := begins.ne_nil
  have bracket := begins.ne_bracket
  simp only [itemsBehind, begins.skip blank]

/-- Whether the items behind an item are found with some fuel, wherever they stand. -/
def GivesItems (fuel : Nat) (text : List Char) (properties : List (Outline → Prop)) : Prop :=
  ∀ (offset : Nat) (rest : List Symbol), ∃ items stop,
    itemsBehind fuel (skipSpaces offset (symbols text ++ rest)) = (items, ⟨stop, rest⟩) ∧
      items.Have properties

/-- An item and those behind it are found. -/
theorem Gives.items {part behind : List Char} {parts : List (List Char)}
    {properties : List (Outline → Prop)} (gives : Gives part property)
    (closes : Closes ']' parts behind) (fuel : Nat) (bound : 2 * part.length ≤ fuel)
    (others : GivesItems fuel behind properties) (comma offset : Nat) (rest : List Symbol) :
    ∃ items stop, itemsAt (fuel + 1) comma ⟨offset, symbols part ++ (symbols behind ++ rest)⟩ =
      (items, ⟨stop, rest⟩) ∧ items.Have (property :: properties) := by
  obtain ⟨outline, after, found, holds⟩ :=
    gives.found fuel offset (symbols behind ++ rest) (closes.endsNumber rfl rest) bound
  obtain ⟨items, stop, followed, has⟩ := others after rest
  refine ⟨.item comma outline items, stop, ?_, .item comma holds has⟩
  rw [itemsAt_succ, found, Cursor.skip, followed]

/-- What stands behind an item gives the other items. -/
theorem Closes.givesItems {parts : List (List Char)} (closes : Closes ']' parts text)
    {properties : List (Outline → Prop)} (each : List.Forall₂ Gives parts properties)
    (fuel : Nat) (bound : 2 * text.length ≤ fuel) : GivesItems fuel text properties := by
  induction closes generalizing properties fuel with
  | last blank =>
    intro offset rest
    cases each
    rw [symbols_append, List.append_assoc, skipSpaces_spaces blank]
    exact ⟨_, _, rfl, .close _⟩
  | @next spaces spaces' part behind parts blank blank' closes ih =>
    intro offset rest
    simp only [List.length_append, List.length_cons] at bound
    obtain ⟨fuel, rfl⟩ : ∃ less, fuel = less + 1 := ⟨fuel - 1, by omega⟩
    cases each with
    | cons gives each =>
      obtain ⟨items, stop, found, has⟩ := gives.items closes fuel (by omega)
        (ih each fuel (by omega)) (offset + spaces.length)
        (offset + spaces.length + 1 + spaces'.length) rest
      refine ⟨items, stop, ?_, has⟩
      rw [← found, ← itemsBehind_comma (gives.opens _) blank']
      simp only [symbols_append, symbols_cons, List.append_assoc, List.cons_append,
        skipSpaces_spaces blank, skipSpaces_char (show isSpace ',' = false from rfl)]

/-- A value that begins with a bracket is an array. -/
theorem outlineAt_bracket (fuel offset : Nat) (rest : List Symbol) :
    outlineAt (fuel + 1) ⟨offset, .char '[' :: rest⟩ =
      (.array offset (itemsInside fuel offset (skipSpaces (offset + 1) rest)).1,
        (itemsInside fuel offset (skipSpaces (offset + 1) rest)).2) :=
  outlineAt_array fuel (skipSpaces_char rfl offset rest)

/-- An array gives the items that its parts give. -/
theorem gives_array {parts : List (List Char)} (spells : SpellsArray parts text)
    {properties : List (Outline → Prop)} (each : List.Forall₂ Gives parts properties) :
    Gives text fun outline => ∃ start items, outline = .array start items ∧
      items.Have properties where
  opens rest := by cases spells <;> exact ⟨'[', _, rfl, by decide⟩
  found fuel offset rest ends bound := by
    cases spells with
    | none blank =>
      cases each
      simp only [List.length_append, List.length_cons] at bound
      obtain ⟨fuel, rfl⟩ : ∃ less, fuel = less + 1 := ⟨fuel - 1, by omega⟩
      simp only [symbols_cons, symbols_append, List.cons_append, List.append_assoc,
        outlineAt_bracket, skipSpaces_spaces blank]
      exact ⟨_, _, rfl, offset, _, rfl, .close _⟩
    | @some spaces part behind parts blank closes =>
      simp only [List.length_append, List.length_cons] at bound
      obtain ⟨fuel, rfl⟩ : ∃ less, fuel = less + 2 := ⟨fuel - 2, by omega⟩
      cases each with
      | cons gives each =>
        obtain ⟨items, stop, found, has⟩ := gives.items closes fuel (by omega)
          (closes.givesItems each fuel (by omega)) offset (offset + 1 + spaces.length) rest
        refine ⟨.array offset items, stop, ?_, offset, items, rfl, has⟩
        have begins := gives.opens (symbols behind ++ rest)
        have inside : itemsInside (fuel + 1) offset ⟨offset + 1 + spaces.length,
            symbols part ++ (symbols behind ++ rest)⟩ = (items, ⟨stop, rest⟩) := by
          have empty := begins.ne_nil
          have bracket := begins.ne_bracket
          simp only [itemsInside, found]
        simp only [symbols_cons, symbols_append, List.cons_append, List.append_assoc,
          outlineAt_bracket, begins.skip blank, inside]

/-! ## Objects -/

/-- Whether a part of an object gives a member with a property. -/
def GivesMember (part : List Char) (property : MemberProperty) : Prop :=
  ∃ name value, SpellsMember name value part ∧ GivesName name property.1 ∧ Gives value property.2

/-- A member begins with a quotation mark. -/
theorem GivesMember.opens {part : List Char} {property : MemberProperty}
    (gives : GivesMember part property) (rest : List Symbol) : Opens (symbols part ++ rest) := by
  obtain ⟨_, value, ⟨blank, blank'⟩, ⟨inside, rfl, -⟩, -⟩ := gives
  exact ⟨'"', _, rfl, by decide⟩

/-- A member that may begin behind a comma is read there. -/
theorem membersBehind_comma {text : List Symbol} (begins : Opens text) {spaces : List Char}
    (blank : AreSpaces spaces) (fuel offset : Nat) :
    membersBehind fuel ⟨offset, .char ',' :: (symbols spaces ++ text)⟩ =
      membersAt fuel offset ⟨offset + 1 + spaces.length, text⟩ := by
  have empty := begins.ne_nil
  have brace := begins.ne_brace
  simp only [membersBehind, begins.skip blank]

/-- Whether the members behind a member are found with some fuel, wherever they stand. -/
def GivesMembers (fuel : Nat) (text : List Char) (properties : List MemberProperty) : Prop :=
  ∀ (offset : Nat) (rest : List Symbol), ∃ members stop,
    membersBehind fuel (skipSpaces offset (symbols text ++ rest)) = (members, ⟨stop, rest⟩) ∧
      members.Have properties

/-- A member and those behind it are found. -/
theorem GivesMember.members {part behind : List Char} {parts : List (List Char)}
    {property : MemberProperty} {properties : List MemberProperty}
    (gives : GivesMember part property) (closes : Closes '}' parts behind) (fuel : Nat)
    (bound : 2 * part.length ≤ fuel) (others : GivesMembers fuel behind properties)
    (comma offset : Nat) (rest : List Symbol) :
    ∃ members stop, membersAt (fuel + 1) comma ⟨offset, symbols part ++ (symbols behind ++ rest)⟩ =
      (members, ⟨stop, rest⟩) ∧ members.Have (property :: properties) := by
  obtain ⟨_, value, ⟨blank, blank'⟩, ⟨inside, rfl, quotes⟩, gives⟩ := gives
  rename_i spaces spaces'
  obtain ⟨content, stop, quoted, named⟩ := quotes (offset + 1)
    (symbols spaces ++
      .char ':' :: (symbols spaces' ++ (symbols value ++ (symbols behind ++ rest))))
  simp only [List.length_append, List.length_cons] at bound
  obtain ⟨outline, after, found, holds⟩ := gives.behind blank' fuel (stop + spaces.length + 1)
    (closes.endsNumber rfl rest) (by omega)
  obtain ⟨members, last, followed, has⟩ := others after rest
  have coloned : Cursor.skip ⟨stop, symbols spaces ++ .char ':' ::
      (symbols spaces' ++ (symbols value ++ (symbols behind ++ rest)))⟩ = ⟨stop + spaces.length,
        .char ':' :: (symbols spaces' ++ (symbols value ++ (symbols behind ++ rest)))⟩ := by
    rw [Cursor.skip, skipSpaces_spaces blank, skipSpaces_char rfl]
  refine ⟨_, last, ?_, .member comma stop (stop + spaces.length) named holds has⟩
  simp only [symbols_append, symbols_cons, List.append_assoc, List.cons_append]
  rw [membersAt_succ fuel comma quoted coloned, found, Cursor.skip, followed]

/-- What stands behind a member gives the other members. -/
theorem Closes.givesMembers {parts : List (List Char)} (closes : Closes '}' parts text)
    {properties : List MemberProperty} (each : List.Forall₂ GivesMember parts properties)
    (fuel : Nat) (bound : 2 * text.length ≤ fuel) : GivesMembers fuel text properties := by
  induction closes generalizing properties fuel with
  | last blank =>
    intro offset rest
    cases each
    rw [symbols_append, List.append_assoc, skipSpaces_spaces blank]
    exact ⟨_, _, rfl, .close _⟩
  | @next spaces spaces' part behind parts blank blank' closes ih =>
    intro offset rest
    simp only [List.length_append, List.length_cons] at bound
    obtain ⟨fuel, rfl⟩ : ∃ less, fuel = less + 1 := ⟨fuel - 1, by omega⟩
    cases each with
    | cons gives each =>
      obtain ⟨members, stop, found, has⟩ := gives.members closes fuel (by omega)
        (ih each fuel (by omega)) (offset + spaces.length)
        (offset + spaces.length + 1 + spaces'.length) rest
      refine ⟨members, stop, ?_, has⟩
      rw [← found, ← membersBehind_comma (gives.opens _) blank']
      simp only [symbols_append, symbols_cons, List.append_assoc, List.cons_append,
        skipSpaces_spaces blank, skipSpaces_char (show isSpace ',' = false from rfl)]

/-- A value that begins with a brace is an object. -/
theorem outlineAt_brace (fuel offset : Nat) (rest : List Symbol) :
    outlineAt (fuel + 1) ⟨offset, .char '{' :: rest⟩ =
      (.object offset (membersInside fuel offset (skipSpaces (offset + 1) rest)).1,
        (membersInside fuel offset (skipSpaces (offset + 1) rest)).2) :=
  outlineAt_object fuel (skipSpaces_char rfl offset rest)

/-- An object gives the members that its parts give. -/
theorem gives_object {parts : List (List Char)} (encloses : Encloses '{' '}' parts text)
    {properties : List MemberProperty} (each : List.Forall₂ GivesMember parts properties) :
    Gives text fun outline => ∃ start members, outline = .object start members ∧
      members.Have properties where
  opens rest := by cases encloses <;> exact ⟨'{', _, rfl, by decide⟩
  found fuel offset rest ends bound := by
    cases encloses with
    | none blank =>
      cases each
      simp only [List.length_append, List.length_cons] at bound
      obtain ⟨fuel, rfl⟩ : ∃ less, fuel = less + 1 := ⟨fuel - 1, by omega⟩
      simp only [symbols_cons, symbols_append, List.cons_append, List.append_assoc,
        outlineAt_brace, skipSpaces_spaces blank]
      exact ⟨_, _, rfl, offset, _, rfl, .close _⟩
    | @some spaces part behind parts blank closes =>
      simp only [List.length_append, List.length_cons] at bound
      obtain ⟨fuel, rfl⟩ : ∃ less, fuel = less + 2 := ⟨fuel - 2, by omega⟩
      cases each with
      | cons gives each =>
        obtain ⟨members, stop, found, has⟩ := gives.members closes fuel (by omega)
          (closes.givesMembers each fuel (by omega)) offset (offset + 1 + spaces.length) rest
        refine ⟨.object offset members, stop, ?_, offset, members, rfl, has⟩
        have begins := gives.opens (symbols behind ++ rest)
        have inside : membersInside (fuel + 1) offset ⟨offset + 1 + spaces.length,
            symbols part ++ (symbols behind ++ rest)⟩ = (members, ⟨stop, rest⟩) := by
          have empty := begins.ne_nil
          have brace := begins.ne_brace
          simp only [membersInside, found]
        simp only [symbols_cons, symbols_append, List.cons_append, List.append_assoc,
          outlineAt_brace, begins.skip blank, inside]

/-! ## JSON texts -/

/-- Items can be passed over if each of them can. -/
theorem Items.pass_of_have {items : Items} {properties : List (Outline → Prop)}
    (has : items.Have properties)
    (passed : ∀ property ∈ properties, ∀ outline, property outline → outline.pass = .ok ()) :
    items.pass = .ok () := by
  induction has with
  | close stop => rfl
  | item comma holds _ ih =>
    rw [Items.pass, passed _ List.mem_cons_self _ holds]
    exact ih fun property mem => passed property (List.mem_cons_of_mem _ mem)

/-- Members can be passed over if the value of each of them can. -/
theorem Members.pass_of_have {members : Members} {properties : List MemberProperty}
    (has : members.Have properties)
    (passed : ∀ property ∈ properties, ∀ outline, property.2 outline → outline.pass = .ok ()) :
    members.pass = .ok () := by
  induction has with
  | close stop => rfl
  | member comma stop colon _ holds _ ih =>
    rw [Members.pass, passed _ List.mem_cons_self _ holds]
    exact ih fun property mem => passed property (List.mem_cons_of_mem _ mem)

/-- A JSON text gives something that can be passed over. -/
theorem IsJson.gives (is : IsJson text) : Gives text fun outline => outline.pass = .ok () := by
  induction is with
  | null => exact gives_null.imp fun _ ⟨_, _, same⟩ => by rw [same]; rfl
  | bool b => exact (gives_bool b).imp fun _ ⟨_, _, same⟩ => by rw [same]; rfl
  | number spells => exact (gives_number spells).imp fun _ ⟨_, _, _, same, _⟩ => by rw [same]; rfl
  | string is => exact is.givesName.gives.imp fun _ ⟨_, _, _, same, _⟩ => by rw [same]; rfl
  | @array items _ spells _ ih =>
    have each : List.Forall₂ Gives items
        (items.map fun _ (outline : Outline) => outline.pass = .ok ()) :=
      List.forall₂_map_right_iff.mpr (List.forall₂_same.mpr ih)
    refine (gives_array spells each).imp fun _ ⟨_, _, same, has⟩ => ?_
    rw [same, Outline.pass]
    exact Items.pass_of_have has (List.forall_mem_map.mpr fun _ _ _ passed => passed)
  | @object values parts _ members encloses _ ih =>
    have each : List.Forall₂ GivesMember parts (values.map fun _ =>
        (fun _ => True, fun outline => outline.pass = .ok ())) := by
      refine List.forall₂_map_right_iff.mpr (List.Forall₂.flip ?_)
      exact ((List.forall₂_and_left _ _).mpr ⟨ih, members⟩).imp fun value part
        ⟨gives, name, is, spells⟩ => ⟨name, value, spells, is.givesName, gives⟩
    refine (gives_object encloses each).imp fun _ ⟨_, _, same, has⟩ => ?_
    rw [same, Outline.pass]
    exact Members.pass_of_have has (List.forall_mem_map.mpr fun _ _ _ passed => passed)

/-! ## Values by their texts -/

/-- Whether an outline is that of a text that stands somewhere. -/
def Outline.IsOf (text : List Char) (outline : Outline) : Prop :=
  ∃ (fuel offset stop : Nat) (rest : List Symbol), EndsNumber rest ∧ 2 * text.length ≤ fuel ∧
    outlineAt fuel ⟨offset, symbols text ++ rest⟩ = (outline, ⟨stop, rest⟩)

/-- A text that gives anything gives its outline. -/
theorem Gives.isOf (gives : Gives text property) : Gives text (Outline.IsOf text) where
  opens := gives.opens
  found fuel offset rest ends bound := by
    obtain ⟨outline, stop, found, -⟩ := gives.found fuel offset rest ends bound
    exact ⟨outline, stop, found, fuel, offset, stop, rest, ends, bound, found⟩

/-- What a text gives holds of its outline. -/
theorem Gives.holds (gives : Gives text property) {outline : Outline} (is : outline.IsOf text) :
    property outline := by
  obtain ⟨fuel, offset, stop, rest, ends, bound, found⟩ := is
  obtain ⟨outline', stop', found', holds⟩ := gives.found fuel offset rest ends bound
  obtain ⟨rfl, -⟩ := Prod.mk.inj (found.symm.trans found')
  exact holds

/-- What is known of the members of an object whose text is spelled out. -/
def textEntries (members : List (String × List Char)) : List (String × (Outline → Prop)) :=
  members.map fun member => (member.1, Outline.IsOf member.2)

/-- The names of members are known with their texts. -/
@[simp]
theorem map_fst_textEntries (members : List (String × List Char)) :
    (textEntries members).map Prod.fst = members.map Prod.fst := by
  simp [textEntries]

/-- An object gives members with the names and the values of its text. -/
theorem SpellsObject.gives {members : List (String × List Char)}
    (spells : SpellsObject members text)
    (values : ∀ member ∈ members, ∃ property, Gives member.2 property) :
    Gives text fun outline => ∃ start inside, outline = .object start inside ∧
      inside.Hold (textEntries members) := by
  obtain ⟨parts, each, encloses⟩ := spells
  refine gives_object encloses ?_
  rw [textEntries, List.map_map]
  refine List.forall₂_map_right_iff.mpr (List.Forall₂.flip ?_)
  exact ((List.forall₂_and_left _ _).mpr ⟨values, each⟩).imp fun member part
    ⟨⟨_, gives⟩, name, spells, is⟩ => ⟨name, member.2, is, spells.givesName, gives.isOf⟩

/-- An array gives the items of its text. -/
theorem SpellsArray.gives {items : List (List Char)} (spells : SpellsArray items text)
    (values : ∀ item ∈ items, ∃ property, Gives item property) :
    Gives text fun outline => ∃ start inside, outline = .array start inside ∧
      inside.Have (items.map Outline.IsOf) := by
  refine gives_array spells (List.forall₂_map_right_iff.mpr (List.forall₂_same.mpr ?_))
  intro item mem
  obtain ⟨property, gives⟩ := values item mem
  exact gives.isOf

/-! ## Whole texts -/

/-- A whole text is decoded as a reader reads what the text gives without the blanks around it. -/
theorem Gives.decodeSymbols (gives : Gives text property) {whole : List Char}
    (padded : Padded text whole) : ∃ outline, outline.IsOf text ∧
      ∀ {α : Type} (read : Reader α), decodeSymbols read (symbols whole) =
        match read outline with
        | .ok a => .ok a
        | .error fault => .error (fault.inText (symbols whole)) := by
  obtain ⟨blank, blank'⟩ := padded
  rename_i before after
  have ends : EndsNumber (symbols after) := by
    have ends := endsNumber_spaces blank' (show EndsNumber [] by simp [EndsNumber])
    rwa [List.append_nil] at ends
  obtain ⟨outline, stop, found, is⟩ := gives.isOf.behind blank
    (2 * (before ++ (text ++ after)).length + 2) 0 ends
    (by simp only [List.length_append]; omega)
  have trailing : Cursor.skip ⟨stop, symbols after⟩ = ⟨stop + after.length, []⟩ := by
    have skipped := skipSpaces_spaces blank' stop []
    rwa [List.append_nil] at skipped
  have document : Document.ofText (symbols (before ++ (text ++ after))) = ⟨outline, none⟩ := by
    rw [Document.ofText, length_symbols]
    simp only [symbols_append, found, trailing]
    rfl
  refine ⟨outline, is, fun read => ?_⟩
  simp only [Json.decodeSymbols, document]
  cases read outline <;> rfl

end PromptDiagram.Json
