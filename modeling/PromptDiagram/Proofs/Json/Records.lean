import PromptDiagram.Proofs.Json.Drafts
import PromptDiagram.Proofs.Json.Nesting

/-!
# Records by their texts

What typed data is read of a text is found part by part. The text of a record is an object whose
members stand in any order, unknown ones among them, and each field holds what its reader makes of
the text of its member. A field without a member stays empty, and so does one that may be null and
is.
-/

namespace PromptDiagram.Json

open Numeric Text

variable {α β δ : Type} {text : List Char}

/-- Whether a reader makes a given value of a text, wherever the text stands. -/
def ReadsAs (read : Reader α) (a : α) (text : List Char) : Prop :=
  Gives text fun outline => read outline = .ok a

/-! ## Simple types -/

/-- A string is read as what it spells. -/
theorem readsAs_string {s : String} (spells : SpellsString s text) : ReadsAs readString s text :=
  spells.givesName.gives.imp fun _ ⟨_, _, _, same, read⟩ => by rw [same]; exact read

/-- A natural number of 64 bits is read from its digits. -/
theorem readsAs_natural {n : Nat} (small : n ≤ greatestNatural) :
    ReadsAs readNatural n (decimalDigits n) :=
  (gives_number (spellsNumeral_decimalDigits n)).imp fun _ ⟨_, _, _, same, read⟩ => by
    rw [same, read _ (value_decimalDigits small)]
    rfl

/-- Whether a reader refuses null, and everything that begins like it. -/
structure RefusesNull (read : Reader α) : Prop where
  null : ∀ start stop, (read (.word start .null stop)).toOption = none
  broken : ∀ start fault, (read (.brokenWord start .null fault)).toOption = none

/-- The reader of strings refuses null. -/
theorem refusesNull_readString : RefusesNull readString := ⟨fun _ _ => rfl, fun _ _ => rfl⟩

/-- The reader of a shape refuses null. -/
theorem refusesNull_reader (shape : Shape δ α) : RefusesNull shape.reader :=
  ⟨fun _ _ => rfl, fun _ _ => rfl⟩

/-- Null is read as nothing. -/
theorem readsAs_null (read : Reader α) : ReadsAs (readOption read) none nullText :=
  gives_null.imp fun _ ⟨_, _, same⟩ => by rw [same]; rfl

/-- What is not null is read as something. -/
theorem ReadsAs.option {read : Reader α} {a : α} (reads : ReadsAs read a text)
    (refuses : RefusesNull read) : ReadsAs (readOption read) (some a) text := by
  refine reads.imp fun outline readsText => ?_
  unfold readOption
  split
  · rename_i start stop
    have refused := refuses.null start stop
    simp [readsText] at refused
  · rename_i start fault
    have refused := refuses.broken start fault
    simp [readsText] at refused
  · rw [readsText]
    rfl

/-! ## Lists -/

/-- Items are read one by one, each as a part of the text. -/
theorem forall₂_of_readItems {read : Reader α} {items : Items} {texts : List (List Char)}
    (has : items.Have (texts.map Outline.IsOf)) {index : Nat} {values : List α}
    (done : readItems read index items = .ok values) :
    List.Forall₂ (fun a text => ∃ outline, Outline.IsOf text outline ∧ read outline = .ok a)
      values texts := by
  induction texts generalizing items index values with
  | nil =>
    cases has
    obtain rfl : [] = values := Except.ok.inj done
    exact .nil
  | cons text texts ih =>
    cases has with
    | @item comma outline rest _ _ is others =>
      obtain ⟨first, firstDone, done⟩ := exists_of_bind_eq_ok done
      obtain ⟨behind, behindDone, done⟩ := exists_of_bind_eq_ok done
      obtain rfl : first :: behind = values := Except.ok.inj done
      have made : read outline = .ok first := by
        rw [← toOption_eq_some_iff, ← toOption_within (.item index), firstDone]
        rfl
      exact .cons ⟨outline, is, made⟩ (ih others behindDone)

/-- Items are read if each of them is. -/
theorem readItems_of_have {read : Reader α} {items : Items} {values : List α}
    (has : items.Have (values.map fun a outline => read outline = .ok a)) (index : Nat) :
    readItems read index items = .ok values := by
  induction values generalizing items index with
  | nil =>
    cases has
    rfl
  | cons a values ih =>
    cases has with
    | item comma first others =>
      simp only [readItems, first, ih others, within, bind, Except.bind, pure, Except.pure]

/-- A list is read if each of its items is. -/
theorem readsAs_list {read : Reader α} {values : List α} {texts : List (List Char)}
    (spells : SpellsArray texts text) (each : List.Forall₂ (ReadsAs read) values texts) :
    ReadsAs (readList read) values text := by
  have gives : List.Forall₂ Gives texts (values.map fun a outline => read outline = .ok a) :=
    List.forall₂_map_right_iff.mpr each.flip
  refine (gives_array spells gives).imp fun outline ⟨start, inside, same, has⟩ => ?_
  rw [same]
  exact readItems_of_have has 0

/-! ## Objects -/

/-- The one member of a name is the only one. -/
theorem eq_of_count_le_one {members : List (String × β)} {name : String}
    (once : (members.map Prod.fst).count name ≤ 1) {b c : β} (mem : (name, b) ∈ members)
    (mem' : (name, c) ∈ members) : b = c := by
  induction members with
  | nil => simp at mem
  | cons member members ih =>
    rw [List.map_cons, List.count_cons] at once
    have fresh {d : β} (behind : (name, d) ∈ members) :
        0 < (members.map Prod.fst).count name :=
      List.count_pos_iff.mpr (List.mem_map_of_mem behind)
    rcases List.mem_cons.mp mem with rfl | behind <;>
      rcases List.mem_cons.mp mem' with same | behind'
    · exact (Prod.mk.inj same).2.symm
    · have again := fresh behind'
      simp only [beq_self_eq_true, if_true] at once
      omega
    · have again := fresh behind
      simp only [← same, beq_self_eq_true, if_true] at once
      omega
    · exact ih (Nat.le_trans (Nat.le_add_right _ _) once) behind behind'

namespace Shape

variable {shape : Shape δ α} {members : List (String × List Char)}

/-- Whether a draft holds what is read of the members of an object, in the place of each field that
the shape keeps. -/
def Holds (shape : Shape δ α) (members : List (String × List Char)) (draft : δ) : Prop :=
  ∀ ⦃β : Type⦄ ⦃name : String⦄ ⦃place : δ → Option β⦄ ⦃read : Reader β⦄,
    shape.Keeps name place read →
      (name ∉ members.map Prod.fst → place draft = none) ∧
      ∀ text, (name, text) ∈ members → ∃ outline b, Outline.IsOf text outline ∧
        read outline = .ok b ∧ place draft = some b

/-- Whether a shape can make something of the member of a name. -/
def Fits (shape : Shape δ α) (name : String) (text : List Char) : Prop :=
  ∃ (β : Type) (place : δ → Option β) (read : Reader β) (b : β), shape.Keeps name place read ∧
    ReadsAs read b text

/-- Whether no field is given to begin with. -/
def StartsBlank (shape : Shape δ α) : Prop :=
  ∀ field ∈ shape.fields, field.isGiven shape.blank = false

/-- A draft that comes out of an object holds what is read of its members. -/
theorem holds_of_drafting {inside : Members} (held : inside.Hold (textEntries members))
    (blank : shape.StartsBlank) {final : δ}
    (drafted : shape.drafting.readMembers shape.blank inside = .ok final) :
    shape.Holds members final := by
  intro β name place read keeps
  obtain ⟨field, found, given, -⟩ := keeps.own
  have vacant : place shape.blank = none := by
    have free := blank field (List.mem_of_find?_eq_some found)
    simpa [given] using free
  refine ⟨fun absent => ?_, fun text mem => ?_⟩
  · rw [keeps.place_of_not_mem held (by simpa using absent) drafted, vacant]
  · exact keeps.place_of_mem held (keeps.count_le_one held drafted) (List.mem_map_of_mem mem)
      drafted

variable (shape) in
/-- What is read of an object is made of a draft that comes out of its members. -/
theorem gives_drafted (spells : SpellsObject members text)
    (values : ∀ member ∈ members, ∃ property, Gives member.2 property) :
    Gives text fun outline => ∀ a, shape.reader outline = .ok a →
      ∃ inside final, inside.Hold (textEntries members) ∧
        shape.drafting.readMembers shape.blank inside = .ok final ∧
        shape.finish final = .ok a := by
  refine (spells.gives values).imp ?_
  rintro _ ⟨start, inside, rfl, held⟩ a done
  rw [reader, ← toOption_eq_some_iff, toOption_readMembers held] at done
  obtain ⟨final, drafted, finished⟩ := Option.bind_eq_some_iff.mp done
  exact ⟨inside, final, held, toOption_eq_some_iff.mp drafted, toOption_eq_some_iff.mp finished⟩

variable (shape) in
/-- What is read of an object is made of a draft that holds what is read of its members. -/
theorem gives_holds (spells : SpellsObject members text)
    (values : ∀ member ∈ members, ∃ property, Gives member.2 property)
    (blank : shape.StartsBlank) :
    Gives text fun outline => ∀ a, shape.reader outline = .ok a →
      ∃ final, shape.Holds members final ∧ shape.finish final = .ok a := by
  refine (gives_drafted shape spells values).imp fun outline inverted a done => ?_
  obtain ⟨inside, final, held, drafted, finished⟩ := inverted a done
  exact ⟨final, holds_of_drafting held blank drafted, finished⟩

/-- Nothing is read of an object that repeats the name of a field. -/
theorem gives_once {name : String} {place : δ → Option β} {read : Reader β}
    (keeps : shape.Keeps name place read) (spells : SpellsObject members text)
    (values : ∀ member ∈ members, ∃ property, Gives member.2 property) :
    Gives text fun outline => ∀ a, shape.reader outline = .ok a →
      (members.map Prod.fst).count name ≤ 1 := by
  refine (gives_drafted shape spells values).imp fun outline inverted a done => ?_
  obtain ⟨inside, final, held, drafted, -⟩ := inverted a done
  simpa using keeps.count_le_one held drafted

/-- An object is read if its known members are, and all the others are JSON texts. -/
theorem readsAs (spells : SpellsObject members text) {known : List String}
    (are : AreMembers known members) (complete : shape.fields.map Field.name = known)
    (fits : ∀ name ∈ known, ∀ text, (name, text) ∈ members → shape.Fits name text)
    (blank : shape.StartsBlank) {a : α}
    (finished : ∀ final, shape.Holds members final → shape.finish final = .ok a) :
    ReadsAs shape.reader a text := by
  subst complete
  have unknown {name : String} (absent : name ∉ shape.fields.map Field.name) :
      shape.field? name = none := by
    rw [field?, List.find?_eq_none]
    intro field mem named
    exact absent (List.mem_map.mpr ⟨field, mem, by simpa using named⟩)
  have values : ∀ member ∈ members, ∃ property, Gives member.2 property := by
    intro member mem
    by_cases listed : member.1 ∈ shape.fields.map Field.name
    · obtain ⟨β, place, read, b, -, reads⟩ := fits member.1 listed member.2 mem
      exact ⟨_, reads⟩
    · exact ⟨_, (are.others member mem listed).gives⟩
  refine (spells.gives values).imp ?_
  rintro _ ⟨start, inside, rfl, held⟩
  have taken : ∀ entry ∈ textEntries members, shape.Takes entry := by
    refine List.forall_mem_map.mpr fun member mem => ?_
    by_cases listed : member.1 ∈ shape.fields.map Field.name
    · obtain ⟨β, place, read, b, keeps, reads⟩ := fits member.1 listed member.2 mem
      exact .inr ⟨β, place, read, keeps, fun outline is => by rw [reads.holds is]; rfl⟩
    · exact .inl ⟨unknown listed, fun outline is => (are.others member mem listed).gives.holds is⟩
  obtain ⟨final, drafted⟩ := exists_draft held (by simpa using are.once) taken
    fun entry _ field found => blank field (List.mem_of_find?_eq_some found)
  rw [reader, ← toOption_eq_some_iff, toOption_readMembers held, drafted, toOption_ok,
    Option.bind_some, finished final (holds_of_drafting held blank drafted)]
  rfl

/-! ## Fields -/

variable {name : String} {place : δ → Option β} {read : Reader β} {spells : β → List Char → Prop}

/-- A field whose member may be left out fits if its text is read. -/
theorem Keeps.fits (keeps : shape.Keeps name place read)
    (reads : ∀ b text, spells b text → ReadsAs read b text)
    (once : (members.map Prod.fst).count name ≤ 1) {b : Option β}
    (may : MayHave spells members name b) (text : List Char) (mem : (name, text) ∈ members) :
    shape.Fits name text := by
  cases may with
  | absent absent => exact absurd (List.mem_map_of_mem mem) absent
  | @given b _ mem' written =>
    obtain rfl := eq_of_count_le_one once mem mem'
    exact ⟨β, place, read, b, keeps, reads b text written⟩

/-- A field whose member may be left out holds what its text is read as, if there is one. -/
theorem Holds.place_eq {draft : δ} (holds : shape.Holds members draft)
    (keeps : shape.Keeps name place read) (reads : ∀ b text, spells b text → ReadsAs read b text)
    {b : Option β} (may : MayHave spells members name b) : place draft = b := by
  cases may with
  | absent absent => exact (holds keeps).1 absent
  | @given b text mem written =>
    obtain ⟨outline, b', is, readsText, placed⟩ := (holds keeps).2 text mem
    obtain rfl := Except.ok.inj (readsText.symm.trans ((reads b text written).holds is))
    exact placed

/-- A field that is read, and whose reader refuses null, has no member that is null. -/
theorem Holds.null_not_mem {draft : δ} (holds : shape.Holds members draft)
    (keeps : shape.Keeps name place read) (refuses : RefusesNull read) :
    (name, nullText) ∉ members := by
  intro mem
  obtain ⟨outline, b, is, readsText, -⟩ := (holds keeps).2 nullText mem
  obtain ⟨start, stop, rfl⟩ := gives_null.holds is
  have refused := refuses.null start stop
  rw [readsText] at refused
  cases refused

end Shape

/-- What may be null is read if what it is else is read. -/
theorem SpellsOption.readsAs {spells : α → List Char → Prop} {read : Reader α}
    (refuses : RefusesNull read) (reads : ∀ a text, spells a text → ReadsAs read a text)
    (a : Option α) (text : List Char) (written : SpellsOption spells a text) :
    ReadsAs (readOption read) a text := by
  cases written with
  | null => exact readsAs_null read
  | given written => exact (reads _ text written).option refuses

/-! ## Names of a fixed set -/

/-- The text of something that has a name: the name as a string, or an object whose only member has
the name and is null. -/
inductive SpellsNamed (known : List (String × α)) (a : α) : List Char → Prop where
  | string {name : String} {text : List Char} : known.lookup name = some a →
      SpellsString name text → SpellsNamed known a text
  | object {name : String} {text : List Char} : known.lookup name = some a →
      SpellsObject [(name, nullText)] text → SpellsNamed known a text

variable {known : List (String × α)}

/-- A known name is found. -/
theorem lookUp_of_known {name : String} {a : α} (named : known.lookup name = some a) (stop : Nat) :
    lookUp known ⟨.ok name, stop⟩ = .ok (name, a) := by
  simp only [lookUp, bind, Except.bind, named]
  rfl

/-- What has a name is read. -/
theorem readsAs_named (a : α) (text : List Char) (spells : SpellsNamed known a text) :
    ReadsAs (readNamed known) a text := by
  cases spells with
  | string named spells =>
    refine spells.givesName.gives.imp ?_
    rintro _ ⟨start, content, stop, rfl, rfl⟩
    rw [readNamed, lookUp_of_known named]
    rfl
  | object named spells =>
    refine (spells.gives (by simpa using ⟨_, gives_null⟩)).imp ?_
    rintro _ ⟨start, inside, rfl, held⟩
    obtain ⟨comma, stop, colon, outline, rest, rfl, is, others⟩ := held.cons
    obtain ⟨last, rfl⟩ := others.nil
    obtain ⟨start', stop', rfl⟩ := gives_null.holds is
    simp only [readNamed, lookUp_of_known named, bind, Except.bind]
    rfl

/-- The reader of names refuses null. -/
theorem refusesNull_readNamed (known : List (String × α)) : RefusesNull (readNamed known) :=
  ⟨fun _ _ => rfl, fun _ _ => rfl⟩

/-! ## Whole texts -/

/-- What a reader makes of a text is what the whole text decodes to. -/
theorem ReadsAs.decodeText {read : Reader α} {a : α} (reads : ReadsAs read a text)
    {whole : List Char} (padded : Padded text whole) : decodeText read whole = .ok a := by
  obtain ⟨outline, is, decoded⟩ := Gives.decodeSymbols reads padded
  rw [Json.decodeText, decoded read, reads.holds is]

end PromptDiagram.Json
