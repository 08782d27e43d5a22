import PromptDiagram.Json.Reader

/-!
# Typed reading and values

A text that is a JSON value can be read in two ways: a typed reader goes over the outline of the
text, or the value is made first and then looked at. For the simple readers both come to the same,
and what is passed over holds no fault. Everything goes back to one inversion: an outline that is
some value has the form that goes with the form of the value, all the way down.
-/

namespace PromptDiagram.Json

open Numeric Text

/-! ## What an outline says -/

/-- Items that are closed, each with a property of its own. -/
inductive Items.Have : Items → List (Outline → Prop) → Prop where
  | close (stop : Nat) : Have (.close stop) []
  | item (comma : Nat) {outline : Outline} {rest : Items} {property : Outline → Prop}
    {others : List (Outline → Prop)} : property outline → Have rest others →
    Have (.item comma outline rest) (property :: others)

/-- What is known of a member: a property of its name and one of its value. -/
abbrev MemberProperty := (Except Fault String → Prop) × (Outline → Prop)

/-- Members that are closed, each with a property of its own. -/
inductive Members.Have : Members → List MemberProperty → Prop where
  | close (stop : Nat) : Have (.close stop) []
  | member (comma stop colon : Nat) {content : Except Fault String} {outline : Outline}
    {rest : Members} {property : MemberProperty} {others : List MemberProperty} :
    property.1 content → property.2 outline → Have rest others →
    Have (.member comma ⟨content, stop⟩ colon outline rest) (property :: others)

/-- Items that are well formed and say the values of a list. -/
inductive Items.Say (room : Nat) : Items → List Value → Prop where
  | close (stop : Nat) : Say room (.close stop) []
  | item (comma : Nat) {outline : Outline} {value : Value} {rest : Items} {values : List Value}
    (first : outline.value room = .ok value) (others : Say room rest values) :
    Say room (.item comma outline rest) (value :: values)

/-- Members that are well formed and say the values of a list of members. -/
inductive Members.Say (room : Nat) : Members → List (String × Value) → Prop where
  | close (stop : Nat) : Say room (.close stop) []
  | member (comma stop colon : Nat) {name : String} {outline : Outline} {value : Value}
    {rest : Members} {values : List (String × Value)}
    (first : outline.value room = .ok value) (others : Say room rest values) :
    Say room (.member comma ⟨.ok name, stop⟩ colon outline rest) ((name, value) :: values)

/-- An outline that is well formed and says a value, form by form. -/
inductive Outline.Says : Nat → Outline → Value → Prop where
  | null (room start stop : Nat) : Says room (.word start .null stop) .null
  | bool (room start stop : Nat) (b : Bool) : Says room (.word start (.bool b) stop) (.bool b)
  | number (room start stop : Nat) (n : Number) : Says room (.number start (.ok n) stop) (.number n)
  | text (room start stop : Nat) (s : String) : Says room (.text start (.ok s) stop) (.text s)
  | array {room : Nat} (start : Nat) {items : Items} {values : List Value}
    (inside : items.Say room values) : Says (room + 1) (.array start items) (.array values)
  | object {room : Nat} (start : Nat) {members : Members} {values : List (String × Value)}
    (inside : members.Say room values) : Says (room + 1) (.object start members) (.object values)

variable {room : Nat}

/-- Items whose values can be made say them. -/
theorem Items.say_of_values : ∀ {items : Items} {values : List Value},
    items.values room = .ok values → items.Say room values
  | .close stop, values, made => by
    obtain rfl : [] = values := by simpa [Items.values] using made
    exact .close stop
  | .item comma outline rest, values, made => by
    simp only [Items.values, bind, Except.bind, pure, Except.pure] at made
    split at made
    · simp at made
    · rename_i first value
      split at made
      · simp at made
      · rename_i others behind
        obtain rfl := Except.ok.inj made
        exact .item comma value (say_of_values behind)
  | .broken cause, values, made => by simp [Items.values] at made

/-- Members whose values can be made say them. -/
theorem Members.say_of_values : ∀ {members : Members} {values : List (String × Value)},
    members.values room = .ok values → members.Say room values
  | .close stop, values, made => by
    obtain rfl : [] = values := by simpa [Members.values] using made
    exact .close stop
  | .member comma ⟨.error fault, stop⟩ colon outline rest, values, made => by
    simp [Members.values, bind, Except.bind] at made
  | .member comma ⟨.ok name, stop⟩ colon outline rest, values, made => by
    simp only [Members.values, bind, Except.bind, pure, Except.pure] at made
    split at made
    · simp at made
    · rename_i first value
      split at made
      · simp at made
      · rename_i others behind
        obtain rfl := Except.ok.inj made
        exact .member comma stop colon value (say_of_values behind)
  | .unnamed comma value, values, made => by simp [Members.values] at made
  | .uncoloned comma ⟨.error fault, stop⟩ offset next, values, made => by
    simp [Members.values, bind, Except.bind] at made
  | .uncoloned comma ⟨.ok name, stop⟩ offset next, values, made => by
    simp [Members.values, bind, Except.bind] at made
  | .broken cause, values, made => by simp [Members.values] at made

/-- The property of a member that has a given name, and a value with a property. -/
def namedProperty (entry : String × (Outline → Prop)) : MemberProperty :=
  (fun content => content = .ok entry.1, entry.2)

/-- Members that are closed and have given names, each with a property of its value. -/
def Members.Hold (members : Members) (entries : List (String × (Outline → Prop))) : Prop :=
  members.Have (entries.map namedProperty)

/-- Where there are no members there is the end of the object. -/
theorem Members.Hold.nil {members : Members} (held : members.Hold []) :
    ∃ stop, members = .close stop := by
  cases held with
  | close stop => exact ⟨stop, rfl⟩

/-- Where there is a member there are its name, its value and the other members. -/
theorem Members.Hold.cons {members : Members} {entry : String × (Outline → Prop)}
    {entries : List (String × (Outline → Prop))} (held : members.Hold (entry :: entries)) :
    ∃ comma stop colon outline rest,
      members = .member comma ⟨.ok entry.1, stop⟩ colon outline rest ∧
        entry.2 outline ∧ rest.Hold entries := by
  cases held with
  | member comma stop colon named holds others =>
    obtain rfl := named
    exact ⟨comma, stop, colon, _, _, rfl, holds, others⟩

/-- What is known of members whose values can be made. -/
def valueEntries (room : Nat) (values : List (String × Value)) :
    List (String × (Outline → Prop)) :=
  values.map fun member => (member.1, fun outline => outline.value room = .ok member.2)

/-- The names of members are known with their values. -/
@[simp]
theorem map_fst_valueEntries (room : Nat) (values : List (String × Value)) :
    (valueEntries room values).map Prod.fst = values.map Prod.fst := by
  simp [valueEntries]

/-- Members that say values hold them. -/
theorem Members.Say.hold {members : Members} {values : List (String × Value)}
    (said : members.Say room values) : members.Hold (valueEntries room values) := by
  induction said with
  | close stop => exact .close stop
  | member comma stop colon first _ ih => exact .member comma stop colon rfl first ih

/-- An outline whose value can be made says it. -/
theorem Outline.says_of_value {outline : Outline} {value : Value}
    (made : outline.value room = .ok value) : outline.Says room value := by
  cases outline with
  | word start word stop =>
    cases word <;> obtain rfl := Except.ok.inj made
    · exact .null room start stop
    · exact .bool room start stop _
  | number start content stop =>
    cases content with
    | error fault => simp [Outline.value, Except.map] at made
    | ok n =>
      obtain rfl := Except.ok.inj made
      exact .number room start stop n
  | text start content stop =>
    cases content with
    | error fault => simp [Outline.value, Except.map] at made
    | ok s =>
      obtain rfl := Except.ok.inj made
      exact .text room start stop s
  | array start items =>
    cases room with
    | zero => simp [Outline.value] at made
    | succ room =>
      cases inside : items.values room with
      | error fault => simp [Outline.value, inside, Except.map] at made
      | ok values =>
        obtain rfl : .array values = value := by
          simpa [Outline.value, inside, Except.map] using made
        exact .array start (Items.say_of_values inside)
  | object start members =>
    cases room with
    | zero => simp [Outline.value] at made
    | succ room =>
      cases inside : members.values room with
      | error fault => simp [Outline.value, inside, Except.map] at made
      | ok values =>
        obtain rfl : .object values = value := by
          simpa [Outline.value, inside, Except.map] using made
        exact .object start (Members.say_of_values inside)
  | _ => simp [Outline.value] at made

mutual

/-- Nothing is wrong with a value that is passed over if it can be made. -/
theorem Outline.pass_of_value : ∀ {outline : Outline} {room : Nat} {value : Value},
    outline.value room = .ok value → outline.pass = .ok ()
  | .word .., _, _, _ => rfl
  | .number .., _, _, _ => rfl
  | .text .., _, _, _ => rfl
  | .array start items, room, value, made => by
    cases Outline.says_of_value made with
    | array _ inside => exact Items.pass_of_say inside
  | .object start members, room, value, made => by
    cases Outline.says_of_value made with
    | object _ inside => exact Members.pass_of_say inside
  | .brokenText .., _, _, made => by simp [Outline.value] at made
  | .brokenWord .., _, _, made => by simp [Outline.value] at made
  | .broken .., _, _, made => by simp [Outline.value] at made
  | .missing _, _, _, made => by simp [Outline.value] at made

/-- Nothing is wrong with items that are passed over if they say values. -/
theorem Items.pass_of_say : ∀ {items : Items} {room : Nat} {values : List Value},
    items.Say room values → items.pass = .ok ()
  | .close _, _, _, _ => rfl
  | .item comma outline rest, room, values, said => by
    cases said with
    | item _ first others =>
      rw [Items.pass, Outline.pass_of_value first]
      exact Items.pass_of_say others
  | .broken _, _, _, said => by cases said

/-- Nothing is wrong with members that are passed over if they say values. -/
theorem Members.pass_of_say : ∀ {members : Members} {room : Nat} {values : List (String × Value)},
    members.Say room values → members.pass = .ok ()
  | .close _, _, _, _ => rfl
  | .member comma name colon outline rest, room, values, said => by
    cases said with
    | member _ _ _ first others =>
      rw [Members.pass, Outline.pass_of_value first]
      exact Members.pass_of_say others
  | .unnamed .., _, _, said => by cases said
  | .uncoloned .., _, _, said => by cases said
  | .broken _, _, _, said => by cases said

end

/-! ## What values decode to -/

/-- The string that a value is. -/
def Value.text? : Value → Option String
  | .text s => some s
  | _ => none

/-- What a value decodes to, where null decodes to nothing. -/
def Value.option? {α : Type} (decode : Value → Option α) : Value → Option (Option α)
  | .null => some none
  | value => (decode value).map some

/-- What the elements of an array decode to. -/
def Value.list? {α : Type} (decode : Value → Option α) : Value → Option (List α)
  | .array items => items.mapM decode
  | _ => none

/-- What a member decodes to. -/
def Value.pair? {α : Type} (decode : Value → Option α) (member : String × Value) :
    Option (String × α) :=
  (decode member.2).map fun a => (member.1, a)

/-- What the members of an object decode to, as a dictionary. -/
def Value.dictionary? {α : Type} (decode : Value → Option α) : Value → Option (Dictionary α)
  | .object members => (members.mapM (pair? decode)).map Dictionary.ofList
  | _ => none

/-- Whether a reader makes of every outline of a value what the value decodes to. -/
def Reads {α : Type} (read : Reader α) (decode : Value → Option α) (value : Value) : Prop :=
  ∀ room outline, outline.value room = .ok value → (read outline).toOption = decode value

/-! ## The simple readers -/

variable {α β : Type} {read : Reader α} {decode : Value → Option α}

/-- What is read without a fault. -/
@[simp]
theorem toOption_ok (a : α) : (Except.ok a : Except Fault α).toOption = some a := rfl

/-- Nothing is read with a fault. -/
@[simp]
theorem toOption_error (fault : Fault) :
    (Except.error fault : Except Fault α).toOption = none := rfl

/-- A step inwards makes no difference to what is read. -/
@[simp]
theorem toOption_within (step : Step) (result : Except Fault α) :
    (within step result).toOption = result.toOption := by
  cases result <;> rfl

/-- What is read first is needed for all the rest. -/
theorem toOption_bind (result : Except Fault α) (follow : α → Except Fault β) :
    (result >>= follow).toOption = result.toOption.bind fun a => (follow a).toOption := by
  cases result <;> rfl

/-- What is made of what is read. -/
theorem toOption_map (f : α → β) (result : Except Fault α) :
    (result.map f).toOption = result.toOption.map f := by
  cases result <;> rfl

/-- Strings are read off texts. -/
theorem reads_string (value : Value) : Reads readString Value.text? value := by
  intro room outline made
  cases Outline.says_of_value made <;> rfl

/-- What is read of an optional value. -/
theorem Reads.option {value : Value} (reads : Reads read decode value) :
    Reads (readOption read) (Value.option? decode) value := by
  intro room outline made
  have inner := reads room outline made
  cases Outline.says_of_value made with
  | null room start stop => rfl
  | _ => simp only [readOption, Value.option?, toOption_map, inner]

/-- Items are read one by one. -/
theorem toOption_readItems {room : Nat} {items : Items} {values : List Value}
    (said : items.Say room values) (reads : ∀ value ∈ values, Reads read decode value)
    (index : Nat) : (readItems read index items).toOption = values.mapM decode := by
  induction said generalizing index with
  | close stop => rfl
  | @item comma outline value rest values first others ih =>
    have head := reads value List.mem_cons_self room outline first
    have tail := ih (fun value mem => reads value (List.mem_cons_of_mem _ mem)) (index + 1)
    simp only [readItems, List.mapM_cons, toOption_bind, toOption_within, head, tail]
    rfl

/-- What is read of a list. -/
theorem Reads.list {value : Value}
    (reads : ∀ items, value = .array items → ∀ item ∈ items, Reads read decode item) :
    Reads (readList read) (Value.list? decode) value := by
  intro room outline made
  cases Outline.says_of_value made with
  | array start inside => exact toOption_readItems inside (reads _ rfl) 0
  | _ => rfl

/-- Members are read one by one. -/
theorem toOption_readMembers {room : Nat} {members : Members} {values : List (String × Value)}
    (said : members.Say room values) (reads : ∀ member ∈ values, Reads read decode member.2) :
    (readMembers read members).toOption = values.mapM (Value.pair? decode) := by
  induction said with
  | close stop => rfl
  | @member comma stop colon name outline value rest values first others ih =>
    have head := reads (name, value) List.mem_cons_self room outline first
    have tail := ih fun member mem => reads member (List.mem_cons_of_mem _ mem)
    simp only [readMembers, List.mapM_cons, toOption_bind, toOption_within, toOption_ok,
      Option.bind_some, head, tail, Value.pair?]
    cases decode value <;> rfl

/-- What is read of a dictionary. -/
theorem Reads.dictionary {value : Value}
    (reads : ∀ members, value = .object members → ∀ member ∈ members,
      Reads read decode member.2) :
    Reads (readDictionary read) (Value.dictionary? decode) value := by
  intro room outline made
  cases Outline.says_of_value made with
  | object start inside =>
    rw [readDictionary, toOption_map, toOption_readMembers inside (reads _ rfl)]
    rfl
  | _ => rfl

/-- What is read comes out, and nothing else does. -/
theorem toOption_eq_some_iff {ε : Type} {result : Except ε α} {a : α} :
    result.toOption = some a ↔ result = .ok a := by
  cases result <;> simp [Except.toOption]

/-! ## Whole texts -/

/-- A text whose value is followed by blanks at most is the text of that value. -/
theorem parse_of_outline {text : List Char} {outline : Outline} {after : Cursor} {value : Value}
    (found : outlineAt (2 * text.length + 2) ⟨0, symbols text⟩ = (outline, after))
    (read : outline.value greatestDepth = .ok value) (ends : after.skip.rest = []) :
    parse text = .ok value := by
  simp [parse, decodeText, decodeSymbols, Document.ofText, found, readValue, read, ends]

/-- A text whose value is followed by more than blanks is refused. -/
theorem parse_of_trailing {text : List Char} {outline : Outline} {after : Cursor}
    (found : outlineAt (2 * text.length + 2) ⟨0, symbols text⟩ = (outline, after))
    (trailing : after.skip.rest ≠ []) : ∃ refusal, parse text = .error refusal := by
  simp only [parse, decodeText, decodeSymbols, Document.ofText, length_symbols, found, readValue]
  cases outline.value greatestDepth with
  | error fault => exact ⟨_, rfl⟩
  | ok value =>
    refine ⟨(Fault.here .trailingText (after.skip.offset + 1)).inText (symbols text), ?_⟩
    simp [trailing]

/-- A text whose outline is that of no value is refused. -/
theorem parse_of_fault {text : List Char} {outline : Outline} {after : Cursor} {fault : Fault}
    (found : outlineAt (2 * text.length + 2) ⟨0, symbols text⟩ = (outline, after))
    (refused : outline.value greatestDepth = .error fault) :
    ∃ refusal, parse text = .error refusal := by
  refine ⟨fault.inText (symbols text), ?_⟩
  simp [parse, decodeText, decodeSymbols, Document.ofText, found, readValue, refused]

/-- A text that is a value is decoded as the outline of the value is read. -/
theorem exists_outline_of_parse {text : List Char} {value : Value}
    (parsed : parse text = .ok value) : ∃ outline : Outline,
      outline.value greatestDepth = .ok value ∧
      ∀ {α : Type} (read : Reader α) (a : α),
        decodeText read text = .ok a ↔ read outline = .ok a := by
  refine ⟨(Document.ofText (symbols text)).outline, ?_⟩
  simp only [parse, decodeText, decodeSymbols, readValue] at parsed ⊢
  cases made : (Document.ofText (symbols text)).outline.value greatestDepth with
  | error fault => simp [made] at parsed
  | ok other =>
    simp only [made] at parsed
    cases trailing : (Document.ofText (symbols text)).trailing with
    | some offset => simp [trailing] at parsed
    | none =>
      obtain rfl : other = value := by simpa [trailing] using parsed
      refine ⟨rfl, fun read a => ?_⟩
      cases read (Document.ofText (symbols text)).outline <;> simp

/-! ## Names -/

mutual

/-- Whether no object within a value repeats a member's name. -/
def Value.unrepeated : Value → Bool
  | .array items => unrepeatedItems items
  | .object members => decide (members.map Prod.fst).Nodup && unrepeatedMembers members
  | _ => true

/-- Whether no object within any of the items repeats a name. -/
def unrepeatedItems : List Value → Bool
  | [] => true
  | item :: rest => item.unrepeated && unrepeatedItems rest

/-- Whether no object within any of the members repeats a name. -/
def unrepeatedMembers : List (String × Value) → Bool
  | [] => true
  | (_, value) :: rest => value.unrepeated && unrepeatedMembers rest

end

/-- The elements of an array without repetitions are without repetitions. -/
theorem unrepeated_of_mem_array {items : List Value} (unrepeated : (Value.array items).unrepeated)
    {item : Value} (mem : item ∈ items) : item.unrepeated := by
  rw [Value.unrepeated] at unrepeated
  induction items with
  | nil => simp at mem
  | cons first rest ih =>
    simp only [unrepeatedItems, Bool.and_eq_true] at unrepeated
    rcases List.mem_cons.mp mem with rfl | mem
    · exact unrepeated.1
    · exact ih unrepeated.2 mem

/-- An object without repetitions has distinct names. -/
theorem nodup_of_unrepeated {members : List (String × Value)}
    (unrepeated : (Value.object members).unrepeated) : (members.map Prod.fst).Nodup := by
  simp only [Value.unrepeated, Bool.and_eq_true, decide_eq_true_eq] at unrepeated
  exact unrepeated.1

/-- The members of an object without repetitions are without repetitions. -/
theorem unrepeated_of_mem_object {members : List (String × Value)}
    (unrepeated : (Value.object members).unrepeated) {member : String × Value}
    (mem : member ∈ members) : member.2.unrepeated := by
  simp only [Value.unrepeated, Bool.and_eq_true] at unrepeated
  replace unrepeated := unrepeated.2
  induction members with
  | nil => simp at mem
  | cons first rest ih =>
    simp only [unrepeatedMembers, Bool.and_eq_true] at unrepeated
    rcases List.mem_cons.mp mem with rfl | mem
    · exact unrepeated.1
    · exact ih mem unrepeated.2

end PromptDiagram.Json
