import PromptDiagram.Proofs.Json.Tokens

/-!
# What follows a value does not change it

A value that is read from a text is read alike from any longer text that begins with it: the same
outline is found and all that follows is left over. Only a number must have something behind it
that it does not go on with, since its digits could be carried on. The proof is by induction on the
fuel, as outlines are built; items and members always have a comma or a closing mark behind them.
-/

namespace PromptDiagram.Json

open Numeric Text

/-! ## Scalars -/

/-- A word is found alike whatever follows it. -/
theorem wordOutline_followedBy (cursor : Cursor) {letters : List Char} {word : Word} {room : Nat}
    {value : Value} (read : (wordOutline cursor letters word).1.value room = .ok value)
    (more : List Symbol) :
    wordOutline (cursor.followedBy more) letters word =
      ((wordOutline cursor letters word).1,
        (wordOutline cursor letters word).2.followedBy more) := by
  cases found : readWord letters cursor with
  | error fault => simp [wordOutline, found, Outline.value] at read
  | ok after => simp [wordOutline, found, readWord_followedBy found]

/-- A number that something ends is found alike whatever follows that. -/
theorem numberOutline_followedBy (cursor : Cursor) {room : Nat} {value : Value}
    (read : (numberOutline cursor).1.value room = .ok value)
    (within : value.kind = .number → (numberOutline cursor).2.rest ≠ []) (more : List Symbol) :
    numberOutline (cursor.followedBy more) =
      ((numberOutline cursor).1, (numberOutline cursor).2.followedBy more) := by
  cases found : readNumeral cursor with
  | error broken => simp [numberOutline, found, Outline.value] at read
  | ok taken =>
    obtain ⟨numeral, after⟩ := taken
    have kind : value.kind = .number := by
      simp only [numberOutline, found, Outline.value] at read
      cases content : numeral.value <;> simp only [content, Except.map] at read <;> cases read
      rfl
    simp only [numberOutline, found] at within
    simp [numberOutline, found, (isLocal_readNumeral found (within kind)).2 more]

/-- A string is found alike whatever follows it. -/
theorem textOutline_followedBy {start : Nat} (cursor : Cursor) {room : Nat} {value : Value}
    (read : (textOutline start cursor).1.value room = .ok value) (more : List Symbol) :
    textOutline start (cursor.followedBy more) =
      ((textOutline start cursor).1, (textOutline start cursor).2.followedBy more) := by
  cases found : readQuoted cursor with
  | error faults => simp [textOutline, found, Outline.value] at read
  | ok quoted =>
    obtain ⟨name, after⟩ := quoted
    cases content : name.content with
    | error fault => simp [textOutline, found, Outline.value, content, Except.map] at read
    | ok s => simp [textOutline, found, readQuoted_followedBy found content more]

/-- A value without brackets and braces is found alike whatever follows it, unless a number is
carried on. -/
theorem scalarOutline_followedBy {cursor : Cursor} {room : Nat} {value : Value}
    (read : (scalarOutline cursor).1.value room = .ok value)
    (within : value.kind = .number → (scalarOutline cursor).2.rest ≠ []) (more : List Symbol) :
    scalarOutline (cursor.followedBy more) =
      ((scalarOutline cursor).1, (scalarOutline cursor).2.followedBy more) := by
  obtain ⟨offset, rest⟩ := cursor
  cases rest with
  | nil => simp [scalarOutline, Outline.value] at read
  | cons symbol rest =>
    cases symbol with
    | stray width => simp [scalarOutline, Outline.value] at read
    | char c =>
      by_cases quote : c = '"'
      · subst quote
        exact textOutline_followedBy ⟨offset + 1, rest⟩ read more
      by_cases n : c = 'n'
      · subst n
        exact wordOutline_followedBy ⟨offset, .char 'n' :: rest⟩ read more
      by_cases t : c = 't'
      · subst t
        exact wordOutline_followedBy ⟨offset, .char 't' :: rest⟩ read more
      by_cases f : c = 'f'
      · subst f
        exact wordOutline_followedBy ⟨offset, .char 'f' :: rest⟩ read more
      by_cases numeric : (c == '-' || isDigit c) = true
      · have number (rest : List Symbol) : scalarOutline ⟨offset, .char c :: rest⟩ =
            numberOutline ⟨offset, .char c :: rest⟩ := by
          simp only [scalarOutline, numeric, if_true]
        rw [number] at read within ⊢
        simp only [Cursor.followedBy, List.cons_append, number]
        exact numberOutline_followedBy ⟨offset, .char c :: rest⟩ read within more
      · simp [scalarOutline, numeric, Outline.value] at read

/-! ## One step of fuel -/

/-- Whether values that are found with some fuel are found with more of it whatever follows them,
unless a number is carried on. -/
def KeepsValues (fuel : Nat) : Prop :=
  ∀ (cursor : Cursor) {room : Nat} {value : Value},
    (outlineAt fuel cursor).1.value room = .ok value →
    (value.kind = .number → (outlineAt fuel cursor).2.rest ≠ []) →
    ∀ (extra : Nat) (more : List Symbol), outlineAt (fuel + extra) (cursor.followedBy more) =
      ((outlineAt fuel cursor).1, (outlineAt fuel cursor).2.followedBy more)

/-- Whether items that are found with some fuel are found with more of it whatever follows them. -/
def KeepsItems (fuel : Nat) : Prop :=
  ∀ (comma : Nat) (cursor : Cursor) {room : Nat} {values : List Value},
    (itemsAt fuel comma cursor).1.values room = .ok values →
    ∀ (extra : Nat) (more : List Symbol), itemsAt (fuel + extra) comma (cursor.followedBy more) =
      ((itemsAt fuel comma cursor).1, (itemsAt fuel comma cursor).2.followedBy more)

/-- Whether members that are found with some fuel are found with more of it whatever follows
them. -/
def KeepsMembers (fuel : Nat) : Prop :=
  ∀ (comma : Nat) (cursor : Cursor) {room : Nat} {values : List (String × Value)},
    (membersAt fuel comma cursor).1.values room = .ok values →
    ∀ (extra : Nat) (more : List Symbol),
      membersAt (fuel + extra) comma (cursor.followedBy more) =
        ((membersAt fuel comma cursor).1, (membersAt fuel comma cursor).2.followedBy more)

/-! ## Items -/

/-- What stands behind an opening bracket and the blanks behind that. -/
def itemsInside (fuel start : Nat) (inside : Cursor) : Items × Cursor :=
  match inside.rest with
  | .char ']' :: behind => (.close (inside.offset + 1), ⟨inside.offset + 1, behind⟩)
  | [] => (.broken (.atEnd inside.offset), inside)
  | _ => itemsAt fuel start inside

/-- An array is an opening bracket and what stands behind it. -/
theorem outlineAt_array (fuel : Nat) {cursor : Cursor} {offset : Nat} {rest : List Symbol}
    (begins : cursor.skip = ⟨offset, .char '[' :: rest⟩) :
    outlineAt (fuel + 1) cursor =
      (.array offset (itemsInside fuel offset (skipSpaces (offset + 1) rest)).1,
        (itemsInside fuel offset (skipSpaces (offset + 1) rest)).2) := by
  simp only [outlineAt, begins]
  rfl

/-- An array is a value if its items are. -/
theorem values_of_array {start room : Nat} {items : Items} {value : Value}
    (read : (Outline.array start items).value room = .ok value) :
    ∃ room values, items.values room = .ok values := by
  cases room with
  | zero => simp [Outline.value] at read
  | succ room =>
    cases found : items.values room with
    | error fault => simp [Outline.value, found, Except.map] at read
    | ok values => exact ⟨room, values, found⟩

/-- What stands behind an opening bracket is kept if items are. -/
theorem itemsInside_followedBy {fuel : Nat} (keepsItems : KeepsItems fuel) {start : Nat}
    {inside : Cursor} {room : Nat} {values : List Value}
    (read : (itemsInside fuel start inside).1.values room = .ok values) (extra : Nat)
    (more : List Symbol) :
    inside.rest ≠ [] ∧ itemsInside (fuel + extra) start (inside.followedBy more) =
      ((itemsInside fuel start inside).1, (itemsInside fuel start inside).2.followedBy more) := by
  obtain ⟨offset, rest⟩ := inside
  cases rest with
  | nil => simp [itemsInside, Items.values] at read
  | cons symbol rest =>
    refine ⟨by simp, ?_⟩
    by_cases close : symbol = .char ']'
    · subst close
      rfl
    · simp only [itemsInside, Cursor.followedBy, List.cons_append, List.cons.injEq, close,
        false_and, imp_self, implies_true] at read ⊢
      exact keepsItems start _ read extra more

/-- What stands behind an item and the blanks behind that. -/
def itemsBehind (fuel : Nat) (after : Cursor) : Items × Cursor :=
  match after.rest with
  | .char ']' :: behind => (.close (after.offset + 1), ⟨after.offset + 1, behind⟩)
  | .char ',' :: behind =>
    let next := skipSpaces (after.offset + 1) behind
    match next.rest with
    | .char ']' :: _ => (.broken (.closedBehindComma after.offset next.offset), next.stopped)
    | [] => (.broken (.endBehindComma after.offset next.offset), next)
    | _ => itemsAt fuel after.offset next
  | [] => (.broken (.atEnd after.offset), after)
  | _ => (.broken (.unseparated after.offset), after.stopped)

/-- Items are an item and what stands behind it. -/
theorem itemsAt_succ (fuel comma : Nat) (cursor : Cursor) :
    itemsAt (fuel + 1) comma cursor =
      (.item comma (outlineAt fuel cursor).1 (itemsBehind fuel (outlineAt fuel cursor).2.skip).1,
        (itemsBehind fuel (outlineAt fuel cursor).2.skip).2) := rfl

/-- An item is a value, and so are the items behind it. -/
theorem values_of_item {comma room : Nat} {outline : Outline} {items : Items} {values : List Value}
    (read : (Items.item comma outline items).values room = .ok values) :
    ∃ value others, outline.value room = .ok value ∧ items.values room = .ok others := by
  obtain ⟨value, first, read⟩ := exists_of_bind_eq_ok read
  obtain ⟨others, rest, -⟩ := exists_of_bind_eq_ok read
  exact ⟨value, others, first, rest⟩

/-- What stands behind an item is kept if items are. -/
theorem itemsBehind_followedBy {fuel : Nat} (keepsItems : KeepsItems fuel) {after : Cursor}
    {room : Nat} {values : List Value}
    (read : (itemsBehind fuel after).1.values room = .ok values) (extra : Nat)
    (more : List Symbol) :
    after.rest ≠ [] ∧ itemsBehind (fuel + extra) (after.followedBy more) =
      ((itemsBehind fuel after).1, (itemsBehind fuel after).2.followedBy more) := by
  obtain ⟨offset, rest⟩ := after
  cases rest with
  | nil => simp [itemsBehind, Items.values] at read
  | cons symbol rest =>
    refine ⟨by simp, ?_⟩
    by_cases close : symbol = .char ']'
    · subst close
      rfl
    by_cases next : symbol = .char ','
    · subst next
      simp only [itemsBehind, Cursor.followedBy, List.cons_append] at read ⊢
      have inside : (skipSpaces (offset + 1) rest).rest ≠ [] := by
        intro empty
        simp [empty, Items.values] at read
      rw [skipSpaces_append inside]
      generalize skipSpaces (offset + 1) rest = cursor at *
      obtain ⟨first, rest⟩ := cursor
      obtain ⟨symbol, rest, rfl⟩ := List.exists_cons_of_ne_nil inside
      by_cases trailing : symbol = .char ']'
      · simp [trailing, Items.values] at read
      · simp only [Cursor.followedBy, List.cons_append, List.cons.injEq, trailing, false_and,
          imp_self, implies_true] at read ⊢
        exact keepsItems offset _ read extra more
    · simp [itemsBehind, close, next, Items.values] at read

/-- Items are kept with one more unit of fuel than each of them. -/
theorem keepsItems_succ {fuel : Nat} (keepsValues : KeepsValues fuel)
    (keepsItems : KeepsItems fuel) : KeepsItems (fuel + 1) := by
  intro comma cursor room values read extra more
  rw [itemsAt_succ] at read
  obtain ⟨value, others, first, read⟩ := values_of_item read
  obtain ⟨behind, kept⟩ := itemsBehind_followedBy keepsItems read extra more
  have found := keepsValues cursor first (fun _ => Cursor.rest_ne_nil_of_skip behind) extra more
  rw [Nat.add_right_comm, itemsAt_succ, found, Cursor.skip_followedBy behind, kept, itemsAt_succ]

/-! ## Members -/

/-- What stands behind an opening brace and the blanks behind that. -/
def membersInside (fuel start : Nat) (inside : Cursor) : Members × Cursor :=
  match inside.rest with
  | .char '}' :: behind => (.close (inside.offset + 1), ⟨inside.offset + 1, behind⟩)
  | [] => (.broken (.atEnd inside.offset), inside)
  | _ => membersAt fuel start inside

/-- An object is an opening brace and what stands behind it. -/
theorem outlineAt_object (fuel : Nat) {cursor : Cursor} {offset : Nat} {rest : List Symbol}
    (begins : cursor.skip = ⟨offset, .char '{' :: rest⟩) :
    outlineAt (fuel + 1) cursor =
      (.object offset (membersInside fuel offset (skipSpaces (offset + 1) rest)).1,
        (membersInside fuel offset (skipSpaces (offset + 1) rest)).2) := by
  simp only [outlineAt, begins]
  rfl

/-- An object is a value if its members are. -/
theorem values_of_object {start room : Nat} {members : Members} {value : Value}
    (read : (Outline.object start members).value room = .ok value) :
    ∃ room values, members.values room = .ok values := by
  cases room with
  | zero => simp [Outline.value] at read
  | succ room =>
    cases found : members.values room with
    | error fault => simp [Outline.value, found, Except.map] at read
    | ok values => exact ⟨room, values, found⟩

/-- What stands behind an opening brace is kept if members are. -/
theorem membersInside_followedBy {fuel : Nat} (keepsMembers : KeepsMembers fuel) {start : Nat}
    {inside : Cursor} {room : Nat} {values : List (String × Value)}
    (read : (membersInside fuel start inside).1.values room = .ok values) (extra : Nat)
    (more : List Symbol) :
    inside.rest ≠ [] ∧ membersInside (fuel + extra) start (inside.followedBy more) =
      ((membersInside fuel start inside).1,
        (membersInside fuel start inside).2.followedBy more) := by
  obtain ⟨offset, rest⟩ := inside
  cases rest with
  | nil => simp [membersInside, Members.values] at read
  | cons symbol rest =>
    refine ⟨by simp, ?_⟩
    by_cases close : symbol = .char '}'
    · subst close
      rfl
    · simp only [membersInside, Cursor.followedBy, List.cons_append, List.cons.injEq, close,
        false_and, imp_self, implies_true] at read ⊢
      exact keepsMembers start _ read extra more

/-- What stands behind a member and the blanks behind that. -/
def membersBehind (fuel : Nat) (after : Cursor) : Members × Cursor :=
  match after.rest with
  | .char '}' :: behind => (.close (after.offset + 1), ⟨after.offset + 1, behind⟩)
  | .char ',' :: behind =>
    let next := skipSpaces (after.offset + 1) behind
    match next.rest with
    | .char '}' :: _ => (.broken (.closedBehindComma after.offset next.offset), next.stopped)
    | [] => (.broken (.endBehindComma after.offset next.offset), next)
    | _ => membersAt fuel after.offset next
  | [] => (.broken (.atEnd after.offset), after)
  | _ => (.broken (.unseparated after.offset), after.stopped)

/-- Members are a name, a colon, a value and what stands behind that. -/
theorem membersAt_succ (fuel comma : Nat) {offset colon : Nat} {rest rest' : List Symbol}
    {name : Name} {behind : Cursor}
    (quoted : readQuoted ⟨offset + 1, rest⟩ = .ok (name, behind))
    (coloned : behind.skip = ⟨colon, .char ':' :: rest'⟩) :
    membersAt (fuel + 1) comma ⟨offset, .char '"' :: rest⟩ =
      (.member comma name colon (outlineAt fuel ⟨colon + 1, rest'⟩).1
        (membersBehind fuel (outlineAt fuel ⟨colon + 1, rest'⟩).2.skip).1,
        (membersBehind fuel (outlineAt fuel ⟨colon + 1, rest'⟩).2.skip).2) := by
  simp only [membersAt, quoted, coloned]
  rfl

/-- Members that are names and values begin with a name and a colon. -/
theorem named_of_members {fuel comma room : Nat} {cursor : Cursor} {values : List (String × Value)}
    (read : (membersAt (fuel + 1) comma cursor).1.values room = .ok values) :
    ∃ offset rest name behind colon rest', cursor = ⟨offset, .char '"' :: rest⟩ ∧
      readQuoted ⟨offset + 1, rest⟩ = .ok (name, behind) ∧
      behind.skip = ⟨colon, .char ':' :: rest'⟩ := by
  simp only [membersAt] at read
  split at read
  · rename_i rest begins
    split at read
    · simp [Members.values] at read
    · rename_i name behind quoted
      split at read
      · rename_i rest' coloned
        exact ⟨cursor.offset, rest, name, behind, behind.skip.offset, rest',
          by rw [← begins], quoted, by rw [← coloned]⟩
      all_goals
        obtain ⟨content, named, read⟩ := exists_of_bind_eq_ok read
        cases read
  · simp [Members.values] at read

/-- A member has a name and a value, and so have the members behind it. -/
theorem values_of_member {comma colon room : Nat} {name : Name} {outline : Outline}
    {members : Members} {values : List (String × Value)}
    (read : (Members.member comma name colon outline members).values room = .ok values) :
    ∃ content value others, name.content = .ok content ∧ outline.value room = .ok value ∧
      members.values room = .ok others := by
  obtain ⟨content, named, read⟩ := exists_of_bind_eq_ok read
  obtain ⟨value, first, read⟩ := exists_of_bind_eq_ok read
  obtain ⟨others, rest, -⟩ := exists_of_bind_eq_ok read
  exact ⟨content, value, others, named, first, rest⟩

/-- What stands behind a member is kept if members are. -/
theorem membersBehind_followedBy {fuel : Nat} (keepsMembers : KeepsMembers fuel) {after : Cursor}
    {room : Nat} {values : List (String × Value)}
    (read : (membersBehind fuel after).1.values room = .ok values) (extra : Nat)
    (more : List Symbol) :
    after.rest ≠ [] ∧ membersBehind (fuel + extra) (after.followedBy more) =
      ((membersBehind fuel after).1, (membersBehind fuel after).2.followedBy more) := by
  obtain ⟨offset, rest⟩ := after
  cases rest with
  | nil => simp [membersBehind, Members.values] at read
  | cons symbol rest =>
    refine ⟨by simp, ?_⟩
    by_cases close : symbol = .char '}'
    · subst close
      rfl
    by_cases next : symbol = .char ','
    · subst next
      simp only [membersBehind, Cursor.followedBy, List.cons_append] at read ⊢
      have inside : (skipSpaces (offset + 1) rest).rest ≠ [] := by
        intro empty
        simp [empty, Members.values] at read
      rw [skipSpaces_append inside]
      generalize skipSpaces (offset + 1) rest = cursor at *
      obtain ⟨first, rest⟩ := cursor
      obtain ⟨symbol, rest, rfl⟩ := List.exists_cons_of_ne_nil inside
      by_cases trailing : symbol = .char '}'
      · simp [trailing, Members.values] at read
      · simp only [Cursor.followedBy, List.cons_append, List.cons.injEq, trailing, false_and,
          imp_self, implies_true] at read ⊢
        exact keepsMembers offset _ read extra more
    · simp [membersBehind, close, next, Members.values] at read

/-- Members are kept with one more unit of fuel than the value of each of them. -/
theorem keepsMembers_succ {fuel : Nat} (keepsValues : KeepsValues fuel)
    (keepsMembers : KeepsMembers fuel) : KeepsMembers (fuel + 1) := by
  intro comma cursor room values read extra more
  obtain ⟨offset, rest, name, after, colon, rest', rfl, quoted, coloned⟩ := named_of_members read
  rw [membersAt_succ fuel comma quoted coloned] at read ⊢
  obtain ⟨content, value, others, named, first, read⟩ := values_of_member read
  -- What stands behind the value comes first: it tells that a number there has an end.
  obtain ⟨behind, kept⟩ := membersBehind_followedBy keepsMembers read extra more
  have found : outlineAt (fuel + extra) ⟨colon + 1, rest' ++ more⟩ =
      ((outlineAt fuel ⟨colon + 1, rest'⟩).1,
        (outlineAt fuel ⟨colon + 1, rest'⟩).2.followedBy more) :=
    keepsValues _ first (fun _ => Cursor.rest_ne_nil_of_skip behind) extra more
  have quoted' : readQuoted ⟨offset + 1, rest ++ more⟩ = .ok (name, after.followedBy more) :=
    readQuoted_followedBy quoted named more
  have coloned' : (after.followedBy more).skip = ⟨colon, .char ':' :: (rest' ++ more)⟩ := by
    have within : after.skip.rest ≠ [] := by simp [coloned]
    rw [Cursor.skip_followedBy within, coloned]
    rfl
  rw [Nat.add_right_comm]
  refine (membersAt_succ (fuel + extra) comma quoted' coloned').trans ?_
  rw [found, Cursor.skip_followedBy behind, kept]

/-! ## Values -/

/-- Whatever begins with no bracket and no brace is a scalar. -/
theorem outlineAt_scalar (fuel : Nat) {cursor : Cursor}
    (bracket : ∀ rest, cursor.skip.rest ≠ .char '[' :: rest)
    (brace : ∀ rest, cursor.skip.rest ≠ .char '{' :: rest) :
    outlineAt (fuel + 1) cursor = scalarOutline cursor.skip := by
  simp only [outlineAt]

/-- Values are kept with one more unit of fuel than items and members. -/
theorem keepsValues_succ {fuel : Nat} (keepsItems : KeepsItems fuel)
    (keepsMembers : KeepsMembers fuel) : KeepsValues (fuel + 1) := by
  intro cursor room value read within extra more
  rw [Nat.add_right_comm]
  have begins : cursor.skip.rest ≠ [] := by
    intro empty
    simp [outlineAt, empty, scalarOutline, Outline.value] at read
  obtain ⟨symbol, rest, first⟩ := List.exists_cons_of_ne_nil begins
  have here : cursor.skip = ⟨cursor.skip.offset, symbol :: rest⟩ := by rw [← first]
  generalize cursor.skip.offset = offset at here
  have skipped : (cursor.followedBy more).skip = ⟨offset, symbol :: (rest ++ more)⟩ := by
    rw [Cursor.skip_followedBy begins, here]
    rfl
  by_cases bracket : symbol = .char '['
  · subst bracket
    rw [outlineAt_array fuel here] at read ⊢
    obtain ⟨room, values, read⟩ := values_of_array read
    obtain ⟨inside, kept⟩ := itemsInside_followedBy keepsItems read extra more
    rw [outlineAt_array (fuel + extra) skipped, skipSpaces_append inside, kept]
  by_cases brace : symbol = .char '{'
  · subst brace
    rw [outlineAt_object fuel here] at read ⊢
    obtain ⟨room, values, read⟩ := values_of_object read
    obtain ⟨inside, kept⟩ := membersInside_followedBy keepsMembers read extra more
    rw [outlineAt_object (fuel + extra) skipped, skipSpaces_append inside, kept]
  · have scalar (fuel : Nat) {cursor : Cursor} {rest : List Symbol}
        (here : cursor.skip = ⟨offset, symbol :: rest⟩) :
        outlineAt (fuel + 1) cursor = scalarOutline ⟨offset, symbol :: rest⟩ := by
      rw [outlineAt_scalar fuel (by simp [here, bracket]) (by simp [here, brace]), here]
    rw [scalar fuel here] at read within ⊢
    rw [scalar (fuel + extra) skipped]
    exact scalarOutline_followedBy read within more

/-- Values, items and members are kept whatever the fuel is. -/
theorem keepsAll (fuel : Nat) : KeepsValues fuel ∧ KeepsItems fuel ∧ KeepsMembers fuel := by
  induction fuel with
  | zero =>
    -- Without fuel nothing is a value.
    refine ⟨?_, ?_, ?_⟩
    · intro cursor room value read
      simp [outlineAt, Outline.value] at read
    · intro comma cursor room values read
      simp [itemsAt, Items.values] at read
    · intro comma cursor room values read
      simp [membersAt, Members.values] at read
  | succ fuel ih =>
    obtain ⟨values, items, members⟩ := ih
    exact ⟨keepsValues_succ items members, keepsItems_succ values items,
      keepsMembers_succ values members⟩

/-! ## Whole texts -/

/-- A text of a value is made of an outline of the value, with blanks at most behind it. -/
theorem outline_of_parse {text : List Char} {value : Value} (read : parse text = .ok value) :
    (outlineAt (2 * text.length + 2) ⟨0, symbols text⟩).1.value greatestDepth = .ok value := by
  simp only [parse, decodeText, decodeSymbols, Document.ofText, length_symbols, readValue] at read
  split at read
  · cases read
  · rename_i found
    split at read
    · obtain rfl : _ = value := by simpa using read
      exact found
    · cases read

/-- A text of a value that is no number is the text of the same value, or refused, whatever follows
it. -/
theorem parse_append {text : List Char} {value : Value} (read : parse text = .ok value)
    (unlike : value.kind ≠ .number) (rest : List Char) :
    parse (text ++ rest) = .ok value ∨ ∃ refusal, parse (text ++ rest) = .error refusal := by
  have outline := outline_of_parse read
  have kept := (keepsAll _).1 _ outline (fun number => absurd number unlike) (2 * rest.length)
    (symbols rest)
  have fuel : 2 * text.length + 2 + 2 * rest.length = 2 * (text ++ rest).length + 2 := by
    rw [List.length_append]
    omega
  rw [fuel, Cursor.followedBy, ← symbols_append] at kept
  by_cases ends : ((outlineAt (2 * text.length + 2) ⟨0, symbols text⟩).2.followedBy
      (symbols rest)).skip.rest = []
  · exact .inl (parse_of_outline kept outline ends)
  · exact .inr (parse_of_trailing kept ends)

end PromptDiagram.Json
