import Mathlib.Data.List.Nodup
import PromptDiagram.Json.Shape
import PromptDiagram.Proofs.Json.Values

/-!
# Drafts of objects

The members of an object are read into a draft in the order of the text. Where the names are
distinct this order makes no difference: each field of the shape has a place of its own in the
draft, which holds in the end what the member of that name decodes to, or nothing if there is no
such member. Members that the shape does not know make no difference at all. A draft comes out
exactly if every member that the shape knows decodes.
-/

namespace PromptDiagram.Json

variable {δ α β γ : Type}

/-! ## Members by name -/

/-- Looking a name up goes through the members from the last one back. -/
theorem member?_cons (member : String × Value) (members : List (String × Value)) (name : String) :
    Value.member? (member :: members) name =
      (Value.member? members name).or (if name = member.1 then some member.2 else none) := by
  rw [Value.member?, List.reverse_cons, List.lookup_append, Dictionary.lookup_cons_eq_ite]
  rfl

/-- A name that no member has stands for nothing. -/
theorem member?_of_not_mem {members : List (String × Value)} {name : String}
    (absent : name ∉ members.map Prod.fst) : Value.member? members name = none := by
  induction members with
  | nil => rfl
  | cons member members ih =>
    obtain ⟨other, absent⟩ : name ≠ member.1 ∧ name ∉ members.map Prod.fst := by
      simpa using absent
    rw [member?_cons, ih absent, if_neg other]
    rfl

/-- Among distinct names each one stands for the value of its member. -/
theorem member?_of_mem {members : List (String × Value)} (distinct : (members.map Prod.fst).Nodup)
    {member : String × Value} (mem : member ∈ members) :
    Value.member? members member.1 = some member.2 := by
  induction members with
  | nil => simp at mem
  | cons first rest ih =>
    obtain ⟨fresh, distinct⟩ := List.nodup_cons.mp distinct
    rw [member?_cons]
    rcases List.mem_cons.mp mem with rfl | mem
    · rw [member?_of_not_mem fresh, if_pos rfl]
      rfl
    · rw [ih distinct mem]
      rfl

/-- What a name stands for is the value of a member of that name. -/
theorem mem_of_member? {members : List (String × Value)} {name : String} {value : Value}
    (written : Value.member? members name = some value) : (name, value) ∈ members := by
  obtain ⟨before, after, parts, -⟩ := List.lookup_eq_some_iff.mp written
  have mem : (name, value) ∈ members.reverse := by simp [parts]
  exact List.mem_reverse.mp mem

/-- What the member of a name decodes to. There need not be such a member, but if there is one it
must decode. -/
def memberOf (decode : Value → Option β) (members : List (String × Value)) (name : String) :
    Option (Option β) :=
  match Value.member? members name with
  | none => some none
  | some value => (decode value).map some

/-- A member of a known value decodes as the value does. -/
theorem memberOf_of_mem {decode : Value → Option β} {members : List (String × Value)}
    (distinct : (members.map Prod.fst).Nodup) {name : String} {value : Value}
    (mem : (name, value) ∈ members) : memberOf decode members name = (decode value).map some := by
  rw [memberOf, member?_of_mem distinct mem]

/-! ## Places -/

/-- Whether reading a field leaves a place of the draft as it is. -/
def Field.Spares (field : Field δ) (place : δ → β) : Prop :=
  ∀ outline draft draft', field.read outline draft = .ok draft' → place draft' = place draft

/-- The name of a field that is read into its place. -/
@[simp]
theorem fieldOf_name (name : String) (mayBeCut : Bool) (place : δ → Option γ) (set : δ → γ → δ)
    (read : Reader γ) : (fieldOf name mayBeCut place set read).name = name := rfl

/-- A field that is read into its place is given once the place holds something. -/
@[simp]
theorem fieldOf_isGiven (name : String) (mayBeCut : Bool) (place : δ → Option γ)
    (set : δ → γ → δ) (read : Reader γ) (draft : δ) :
    (fieldOf name mayBeCut place set read).isGiven draft = (place draft).isSome := rfl

/-- A field that is read into its place leaves what its writing leaves. -/
theorem spares_fieldOf {name : String} {mayBeCut : Bool} {own : δ → Option γ} {set : δ → γ → δ}
    {read : Reader γ} {place : δ → β} (same : ∀ draft c, place (set draft c) = place draft) :
    (fieldOf name mayBeCut own set read).Spares place := by
  intro outline draft draft' done
  simp only [fieldOf] at done
  cases result : read outline with
  | error fault => simp [result, Except.map] at done
  | ok c =>
    obtain rfl : set draft c = draft' := by simpa [result, Except.map] using done
    exact same draft c

namespace Shape

variable {shape : Shape δ α} {name : String} {place : δ → Option β} {read : Reader β}

/-- Whether a shape keeps what a reader makes of the field of a name in a place of the draft, which
every other field leaves alone. -/
structure Keeps (shape : Shape δ α) (name : String) (place : δ → Option β)
    (read : Reader β) : Prop where
  own : ∃ field, shape.field? name = some field ∧
    (∀ draft, field.isGiven draft = (place draft).isSome) ∧
    ∀ outline draft, ((field.read outline draft).map place).toOption =
      (read outline).toOption.map some
  others : ∀ other field, other ≠ name → shape.field? other = some field → field.Spares place

/-- A shape keeps a field that is read into its place. -/
theorem keeps_fieldOf {mayBeCut : Bool} {set : δ → β → δ}
    (found : shape.field? name = some (fieldOf name mayBeCut place set read))
    (kept : ∀ draft b, place (set draft b) = some b)
    (others : ∀ field ∈ shape.fields, field.name ≠ name → field.Spares place) :
    shape.Keeps name place read where
  own := by
    refine ⟨_, found, fun _ => rfl, fun outline draft => ?_⟩
    simp only [fieldOf]
    cases read outline with
    | error fault => rfl
    | ok b => exact congrArg some (kept draft b)
  others := by
    intro other field differs found
    have named : field.name = other := by simpa using List.find?_some found
    exact others field (List.mem_of_find?_eq_some found) (named ▸ differs)

/-- The shape of the drafts themselves, which are finished as they are. -/
def drafting (shape : Shape δ α) : Shape δ δ where
  name := shape.name
  fields := shape.fields
  blank := shape.blank
  finish := .ok

/-- Drafting knows the fields of the shape. -/
theorem field?_drafting (shape : Shape δ α) (name : String) :
    shape.drafting.field? name = shape.field? name := rfl

variable {room : Nat} {members : Members} {values : List (String × Value)}

variable {entries : List (String × (Outline → Prop))}

/-- Reading an object is drafting it and then finishing the draft. -/
theorem toOption_readMembers (held : members.Hold entries) (draft : δ) :
    (shape.readMembers draft members).toOption =
      (shape.drafting.readMembers draft members).toOption.bind fun draft =>
        (shape.finish draft).toOption := by
  induction entries generalizing members draft with
  | nil =>
    obtain ⟨stop, rfl⟩ := held.nil
    simp only [readMembers, close, drafting, toOption_ok, Option.bind_some]
    cases shape.finish draft <;> rfl
  | cons entry entries ih =>
    obtain ⟨comma, stop, colon, outline, rest, rfl, -, others⟩ := held.cons
    simp only [readMembers, toOption_bind, toOption_ok, Option.bind_some, field?_drafting]
    cases shape.field? entry.1 with
    | none => simp only [toOption_bind, Option.bind_assoc, ih others]
    | some field =>
      simp only
      split
      · rfl
      · simp only [toOption_bind, Option.bind_assoc, ih others]

/-- One member of a draft: it is read into its field, or passed over if there is none. -/
theorem drafting_member {name : String} {outline : Outline} {rest : Members} {draft final : δ}
    {comma stop colon : Nat} (drafted : shape.drafting.readMembers draft
      (.member comma ⟨.ok name, stop⟩ colon outline rest) = .ok final) :
    (shape.field? name = none ∧ shape.drafting.readMembers draft rest = .ok final) ∨
    ∃ field next, shape.field? name = some field ∧ field.isGiven draft = false ∧
      field.read outline draft = .ok next ∧ shape.drafting.readMembers next rest = .ok final := by
  simp only [readMembers, bind, Except.bind, field?_drafting] at drafted
  cases found : shape.field? name with
  | none =>
    cases passed : outline.pass with
    | error fault => simp [found, passed, within] at drafted
    | ok done => exact .inl ⟨rfl, by simpa [found, passed, within] using drafted⟩
  | some field =>
    simp only [found] at drafted
    split at drafted
    · simp at drafted
    · rename_i given
      cases done : field.read outline draft with
      | error fault => simp [done, within] at drafted
      | ok next =>
        simp only [done, within] at drafted
        exact .inr ⟨field, next, rfl, by simpa using given, done, drafted⟩

/-- The place of a field is left alone by the members of other names. -/
theorem Keeps.place_of_not_mem (keeps : shape.Keeps name place read) (held : members.Hold entries)
    (absent : name ∉ entries.map Prod.fst) {draft final : δ}
    (drafted : shape.drafting.readMembers draft members = .ok final) :
    place final = place draft := by
  induction entries generalizing members draft with
  | nil =>
    obtain ⟨stop, rfl⟩ := held.nil
    exact congrArg place (Except.ok.inj drafted).symm
  | cons entry entries ih =>
    obtain ⟨comma, stop, colon, outline, rest, rfl, -, others⟩ := held.cons
    obtain ⟨differs, absent⟩ : name ≠ entry.1 ∧ name ∉ entries.map Prod.fst := by simpa using absent
    rcases drafting_member drafted with ⟨-, drafted⟩ | ⟨field, next, found, -, done, drafted⟩
    · exact ih others absent drafted
    · rw [ih others absent drafted]
      exact keeps.others entry.1 field differs.symm found outline draft next done

/-- Reading a member of a field's own name fills its place, which was empty, with what is read. -/
theorem Keeps.fills (keeps : shape.Keeps name place read) {field : Field δ} {outline : Outline}
    {draft next : δ} (found : shape.field? name = some field) (vacant : field.isGiven draft = false)
    (done : field.read outline draft = .ok next) :
    place draft = none ∧ ∃ b, read outline = .ok b ∧ place next = some b := by
  obtain ⟨own, found', given, takes⟩ := keeps.own
  obtain rfl : own = field := Option.some.inj (found'.symm.trans found)
  have holds := takes outline draft
  rw [done] at holds
  obtain ⟨b, made, placed⟩ := Option.map_eq_some_iff.mp holds.symm
  rw [given] at vacant
  exact ⟨Option.not_isSome_iff_eq_none.mp (Bool.eq_false_iff.mp vacant), b,
    toOption_eq_some_iff.mp made, placed.symm⟩

/-- The place of a field holds in the end what is read of the one member of its name. -/
theorem Keeps.place_of_mem (keeps : shape.Keeps name place read) (held : members.Hold entries)
    (once : (entries.map Prod.fst).count name ≤ 1) {property : Outline → Prop}
    (mem : (name, property) ∈ entries) {draft final : δ}
    (drafted : shape.drafting.readMembers draft members = .ok final) :
    ∃ outline b, property outline ∧ read outline = .ok b ∧ place final = some b := by
  induction entries generalizing members draft with
  | nil => simp at mem
  | cons entry entries ih =>
    obtain ⟨comma, stop, colon, outline, rest, rfl, first, others⟩ := held.cons
    have step := drafting_member drafted
    rw [List.map_cons, List.count_cons] at once
    by_cases same : entry.1 = name
    · have fresh : name ∉ entries.map Prod.fst := by
        rw [← List.count_eq_zero]
        simp only [same, beq_self_eq_true, if_true] at once
        omega
      obtain rfl : (name, property) = entry := (List.mem_cons.mp mem).resolve_right fun behind =>
        fresh (List.mem_map_of_mem behind)
      obtain ⟨field, found, -⟩ := keeps.own
      obtain ⟨field', next, found', vacant, done, drafted⟩ := step.resolve_left (by simp [found])
      obtain ⟨-, b, made, placed⟩ := keeps.fills found' vacant done
      -- No other member has this name, so what is read here is not written again further on.
      refine ⟨outline, b, first, made, ?_⟩
      rw [keeps.place_of_not_mem others fresh drafted, placed]
    · have once : (entries.map Prod.fst).count name ≤ 1 := by simpa [same] using once
      have mem : (name, property) ∈ entries := by
        refine (List.mem_cons.mp mem).resolve_left ?_
        rintro rfl
        exact same rfl
      rcases step with ⟨-, drafted⟩ | ⟨field, next, found, -, done, drafted⟩
      · exact ih others once mem drafted
      · exact ih others once mem drafted

/-- Where a draft comes out although the place of a field is filled, no member has its name. -/
theorem Keeps.not_mem_of_isSome (keeps : shape.Keeps name place read) (held : members.Hold entries)
    {draft final : δ} (filled : (place draft).isSome = true)
    (drafted : shape.drafting.readMembers draft members = .ok final) :
    name ∉ entries.map Prod.fst := by
  induction entries generalizing members draft with
  | nil => simp
  | cons entry entries ih =>
    obtain ⟨comma, stop, colon, outline, rest, rfl, -, others⟩ := held.cons
    rcases drafting_member drafted with ⟨unknown, drafted⟩ |
      ⟨field, next, found, vacant, done, drafted⟩
    · have differs : name ≠ entry.1 := by
        rintro rfl
        obtain ⟨field, found, -⟩ := keeps.own
        simp [found] at unknown
      simpa [differs] using ih others filled drafted
    · have differs : name ≠ entry.1 := by
        rintro rfl
        simp [(keeps.fills found vacant done).1] at filled
      have kept : place next = place draft :=
        keeps.others entry.1 field differs.symm found outline draft next done
      simpa [differs] using ih others (kept ▸ filled) drafted

/-- Where a draft comes out, no two members have the name of a field. -/
theorem Keeps.count_le_one (keeps : shape.Keeps name place read) (held : members.Hold entries)
    {draft final : δ} (drafted : shape.drafting.readMembers draft members = .ok final) :
    (entries.map Prod.fst).count name ≤ 1 := by
  induction entries generalizing members draft with
  | nil => simp
  | cons entry entries ih =>
    obtain ⟨comma, stop, colon, outline, rest, rfl, -, others⟩ := held.cons
    rw [List.map_cons, List.count_cons]
    by_cases same : entry.1 = name
    · obtain ⟨field, found, -⟩ := keeps.own
      obtain ⟨field', next, found', vacant, done, drafted⟩ :=
        (drafting_member drafted).resolve_left (by simp [same, found])
      obtain ⟨-, b, -, placed⟩ := keeps.fills (same ▸ found') vacant done
      have filled : (place next).isSome = true := by rw [placed]; rfl
      rw [List.count_eq_zero.mpr (keeps.not_mem_of_isSome others filled drafted)]
      split <;> omega
    · rw [if_neg (by simpa using same)]
      rcases drafting_member drafted with ⟨-, drafted⟩ | ⟨field, next, -, -, -, drafted⟩ <;>
        exact ih others drafted

/-- The place of a field holds in the end what the member of its name decodes to. -/
theorem Keeps.memberOf_eq (keeps : shape.Keeps name place read) (said : members.Say room values)
    (distinct : (values.map Prod.fst).Nodup) {decode : Value → Option β}
    (reads : ∀ value, (name, value) ∈ values → Reads read decode value) {draft final : δ}
    (blank : place draft = none)
    (drafted : shape.drafting.readMembers draft members = .ok final) :
    memberOf decode values name = some (place final) := by
  by_cases known : name ∈ values.map Prod.fst
  · obtain ⟨⟨_, value⟩, mem, rfl⟩ := List.mem_map.mp known
    obtain ⟨outline, b, made, took, placed⟩ := keeps.place_of_mem said.hold
      (by simpa using List.nodup_iff_count_le_one.mp distinct _)
      (List.mem_map_of_mem mem) drafted
    rw [memberOf_of_mem distinct mem, ← reads value mem room outline made, took, placed]
    rfl
  · rw [memberOf, member?_of_not_mem known,
      keeps.place_of_not_mem said.hold (by simpa using known) drafted, blank]

/-- Whether a shape can read a member of which something is known, if it knows the name, and can
pass over it else. -/
def Takes (shape : Shape δ α) (entry : String × (Outline → Prop)) : Prop :=
  (shape.field? entry.1 = none ∧ ∀ outline, entry.2 outline → outline.pass = .ok ()) ∨
    ∃ (β : Type) (place : δ → Option β) (read : Reader β), shape.Keeps entry.1 place read ∧
      ∀ outline, entry.2 outline → (read outline).toOption.isSome

/-- Whether a member can be read by a shape, if the shape knows it. -/
def Accepts (shape : Shape δ α) (member : String × Value) : Prop :=
  shape.field? member.1 = none ∨
    ∃ (β : Type) (place : δ → Option β) (read : Reader β), shape.Keeps member.1 place read ∧
      ∀ room outline, outline.value room = .ok member.2 → (read outline).toOption.isSome

/-- A member that is a value is taken if it is accepted. -/
theorem Accepts.takes {member : String × Value} (accepts : shape.Accepts member) (room : Nat) :
    shape.Takes (member.1, fun outline => outline.value room = .ok member.2) := by
  rcases accepts with unknown | ⟨β, place, read, keeps, succeeds⟩
  · exact .inl ⟨unknown, fun outline made => Outline.pass_of_value made⟩
  · exact .inr ⟨β, place, read, keeps, succeeds room⟩

/-- A member that decodes can be read, so one that cannot be read does not decode. -/
theorem Keeps.memberOf_eq_none (keeps : shape.Keeps name place read)
    (distinct : (values.map Prod.fst).Nodup) {decode : Value → Option β} {value : Value}
    (mem : (name, value) ∈ values) (reads : Reads read decode value)
    (refused : ¬shape.Accepts (name, value)) : memberOf decode values name = none := by
  rw [memberOf_of_mem distinct mem, Option.map_eq_none_iff, ← Option.not_isSome_iff_eq_none]
  intro decodes
  refine refused (.inr ⟨β, place, read, keeps, fun room outline made => ?_⟩)
  rw [reads room outline made]
  exact decodes

/-- Reading another field does not give the field of a member. -/
theorem Takes.isGiven_eq {entry : String × (Outline → Prop)} (takes : shape.Takes entry)
    (differs : name ≠ entry.1) {field other : Field δ} (found : shape.field? entry.1 = some field)
    (found' : shape.field? name = some other) {outline : Outline} {draft next : δ}
    (done : other.read outline draft = .ok next) : field.isGiven next = field.isGiven draft := by
  rcases takes with ⟨unknown, -⟩ | ⟨β, place, read, keeps, -⟩
  · simp [unknown] at found
  · obtain ⟨field', found'', given, -⟩ := keeps.own
    obtain rfl : field = field' := Option.some.inj (found.symm.trans found'')
    rw [given, given, keeps.others name other differs found' outline draft next done]

/-- A field that is found has the name that it is looked for by. -/
theorem name_of_field? {field : Field δ} (found : shape.field? name = some field) :
    name ∈ shape.fields.map Field.name := by
  have named : field.name = name := by simpa using List.find?_some found
  exact List.mem_map.mpr ⟨field, List.mem_of_find?_eq_some found, named⟩

/-- A draft comes out if every member can be taken and no field is given twice. -/
theorem exists_draft (held : members.Hold entries)
    (once : ∀ name ∈ shape.fields.map Field.name, (entries.map Prod.fst).count name ≤ 1)
    (taken : ∀ entry ∈ entries, shape.Takes entry) {draft : δ}
    (free : ∀ entry ∈ entries, ∀ field, shape.field? entry.1 = some field →
      field.isGiven draft = false) :
    ∃ final, shape.drafting.readMembers draft members = .ok final := by
  induction entries generalizing members draft with
  | nil =>
    obtain ⟨stop, rfl⟩ := held.nil
    exact ⟨draft, rfl⟩
  | cons entry entries ih =>
    obtain ⟨comma, stop, colon, outline, rest, rfl, first, others⟩ := held.cons
    have behind := fun other mem => taken other (List.mem_cons_of_mem entry mem)
    simp only [List.map_cons, List.count_cons] at once
    have onceBehind : ∀ name ∈ shape.fields.map Field.name, (entries.map Prod.fst).count name ≤ 1 :=
      fun name known => Nat.le_trans (Nat.le_add_right _ _) (once name known)
    simp only [readMembers, bind, Except.bind, field?_drafting]
    rcases taken _ List.mem_cons_self with ⟨unknown, passed⟩ | ⟨β, place, read, keeps, succeeds⟩
    · simp only [unknown, passed outline first, within]
      exact ih others onceBehind behind fun other mem => free other (List.mem_cons_of_mem _ mem)
    · obtain ⟨field, found, given, takes⟩ := keeps.own
      have fresh : entry.1 ∉ entries.map Prod.fst := by
        have single := once entry.1 (name_of_field? found)
        rw [beq_self_eq_true, if_pos rfl] at single
        rw [← List.count_eq_zero]
        omega
      have holds := takes outline draft
      obtain ⟨b, reads⟩ := Option.isSome_iff_exists.mp (succeeds outline first)
      rw [reads] at holds
      have vacant := free _ List.mem_cons_self field found
      cases done : field.read outline draft with
      | error fault => simp [done, Except.map] at holds
      | ok next =>
        simp only [found, vacant, Bool.false_eq_true, if_false, done, within]
        refine ih others onceBehind behind fun other mem field' found' => ?_
        have named : other.1 ∈ entries.map Prod.fst := List.mem_map_of_mem mem
        have differs : entry.1 ≠ other.1 := fun same => fresh (same ▸ named)
        rw [(behind other mem).isGiven_eq differs found' found done]
        exact free other (List.mem_cons_of_mem _ mem) field' found'

/-- A member that a shape does not accept is one that it knows. -/
theorem known_of_refused {member : String × Value} (refused : ¬shape.Accepts member) :
    member.1 ∈ shape.fields.map Field.name := by
  refine Classical.byContradiction fun unknown => refused (.inl ?_)
  rw [field?, List.find?_eq_none]
  intro field mem named
  exact unknown (List.mem_map.mpr ⟨field, mem, by simpa using named⟩)

/-- If no draft comes out of an object, then for a member that is known and cannot be read. -/
theorem exists_refused (said : members.Say room values) (distinct : (values.map Prod.fst).Nodup)
    (blank : ∀ field ∈ shape.fields, field.isGiven shape.blank = false) {fault : Fault}
    (failed : shape.drafting.readMembers shape.blank members = .error fault) :
    ∃ member ∈ values, member.1 ∈ shape.fields.map Field.name ∧ ¬shape.Accepts member := by
  refine Classical.byContradiction fun allAccepted => ?_
  have accepted (member : String × Value) (mem : member ∈ values) : shape.Accepts member :=
    Classical.byContradiction fun refused =>
      allAccepted ⟨member, mem, known_of_refused refused, refused⟩
  obtain ⟨final, drafted⟩ := exists_draft said.hold
    (fun name _ => by simpa using List.nodup_iff_count_le_one.mp distinct name)
    (List.forall_mem_map.mpr fun member mem => (accepted member mem).takes room)
    fun entry mem field found => blank field (List.mem_of_find?_eq_some found)
  rw [drafted] at failed
  cases failed

end Shape

/-! ## Objects -/

/-- What an object's members make, if a value is an object. -/
def Value.object? (make : List (String × Value) → Option α) : Value → Option α
  | .object members => make members
  | _ => none

/-- A field with its place in the draft, its reader, and what its values decode to. -/
structure Slot (δ : Type) where
  {content : Type}
  name : String
  place : δ → Option content
  read : Reader content
  decode : Value → Option content

/-- An object with distinct names is read as its members make it, if there is a slot for each field
of the shape, every member is read as its slot decodes it, and what the members make goes by what
the slots decode. -/
theorem Shape.reads_object {shape : Shape δ α} {make : List (String × Value) → Option α}
    {values : List (String × Value)} (slots : List (Slot δ))
    (complete : shape.fields.map Field.name = slots.map Slot.name)
    (keeps : ∀ slot ∈ slots, shape.Keeps slot.name slot.place slot.read)
    (blank : ∀ field ∈ shape.fields, field.isGiven shape.blank = false)
    (distinct : (values.map Prod.fst).Nodup)
    (reads : ∀ slot ∈ slots, ∀ value, (slot.name, value) ∈ values →
      Reads slot.read slot.decode value)
    (made : ∀ final : δ,
      (∀ slot ∈ slots, memberOf slot.decode values slot.name = some (slot.place final)) →
      make values = (shape.finish final).toOption)
    (unmade : ∀ slot ∈ slots, memberOf slot.decode values slot.name = none →
      make values = none) :
    Reads shape.reader (Value.object? make) (.object values) := by
  intro room outline said
  cases Outline.says_of_value said with
  | @object room _ outlines _ said =>
    rw [reader, toOption_readMembers said.hold, Value.object?]
    cases drafted : shape.drafting.readMembers shape.blank outlines with
    | ok final =>
      rw [toOption_ok, Option.bind_some]
      refine (made final fun slot mem => ?_).symm
      have vacant : slot.place shape.blank = none := by
        obtain ⟨field, found, given, -⟩ := (keeps slot mem).own
        have free := blank field (List.mem_of_find?_eq_some found)
        simpa [given] using free
      exact (keeps slot mem).memberOf_eq said distinct (reads slot mem) vacant drafted
    | error fault =>
      obtain ⟨⟨name, value⟩, mem, known, refused⟩ := exists_refused said distinct blank drafted
      rw [complete] at known
      obtain ⟨slot, listed, rfl⟩ := List.mem_map.mp known
      exact (unmade slot listed ((keeps slot listed).memberOf_eq_none distinct mem
        (reads slot listed value mem) refused)).symm

end PromptDiagram.Json
