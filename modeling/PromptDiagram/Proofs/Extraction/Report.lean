import PromptDiagram.Proofs.Alias.Table
import PromptDiagram.Proofs.Extraction.Description
import PromptDiagram.Proofs.Json.Drafts

/-!
# Reports of violations

What is reported of an object is put together from its parts: what is wrong with the nodes as a
whole, what is wrong with each node in its order, and the same of the edges. The part of an element
depends on its index and on the element alone. The checks report just this, and no text stands in a
report twice: every text begins with a path of its own, which no key of a property can imitate.
-/

namespace PromptDiagram.Schema

open Json Text

/-! ## Reports -/

/-- What is asked of a member. -/
inductive Demand where
  /-- A string that is more than blanks. -/
  | id
  /-- A string, null or nothing. -/
  | text
  /-- An object of strings, null or nothing. -/
  | properties

/-- The members of a node, in the order of a report. -/
def nodeDemands : List (String × Demand) :=
  [("id", .id), ("label", .text), ("kind", .text), ("props", .properties)]

/-- The members of an edge, in the order of a report. -/
def edgeDemands : List (String × Demand) :=
  [("source", .id), ("target", .id), ("label", .text), ("kind", .text)]

/-- The text about a value of a wrong kind. -/
def mismatch (path what : String) (value : Value) : String :=
  path ++ ": expected " ++ what ++ ", found " ++ value.kind.name

/-- The text about a member that is missing. -/
def absence (path : String) : String :=
  path ++ ": missing required field"

/-- The names of members, each once and in ascending order. -/
def ascendingNames (members : Members) : List String :=
  (members.map Prod.fst).eraseDups.mergeSort fun a b => !decide (b < a)

/-- What is reported of a property: nothing if it is a string. -/
def propertyReport (path : String) : Option Value → Option String
  | none | some (.text _) => none
  | some value => some (mismatch path "string" value)

/-- What is reported of a member. -/
def Demand.report (path : String) : Demand → Option Value → List String
  | .id, none => [absence path]
  | .id, some (.text s) => if isBlankString s then [path ++ ": must not be empty"] else []
  | .id, some value => [mismatch path "string" value]
  | .text, none | .text, some .null | .text, some (.text _) => []
  | .text, some value => [mismatch path "string or null" value]
  | .properties, none | .properties, some .null => []
  | .properties, some (.object entries) => (ascendingNames entries).filterMap fun key =>
      propertyReport (path ++ "." ++ key) (Value.member? entries key)
  | .properties, some value => [mismatch path "object or null" value]

/-- What is reported of an element: that it is no object, or what is wrong with its members. -/
def elementReport (demands : List (String × Demand)) (path : String) : Value → List String
  | .object members => demands.flatMap fun (name, demand) =>
      demand.report (path ++ "." ++ name) (Value.member? members name)
  | value => [mismatch path "object" value]

/-- What is reported of an array: that there is none, or what is wrong with its elements. -/
def arrayReport (demands : List (String × Demand)) (name : String) : Option Value → List String
  | some (.array items) => items.zipIdx.flatMap fun (item, index) =>
      elementReport demands (name ++ "[" ++ toString index ++ "]") item
  | some value => [mismatch name "array" value]
  | none => [absence name]

/-- What is reported of an object that should describe a graph. -/
def report (members : Members) : List String :=
  arrayReport nodeDemands "nodes" (Value.member? members "nodes") ++
    arrayReport edgeDemands "edges" (Value.member? members "edges")

/-! ## Reports of the checks -/

/-- What a check reports, in words. -/
def Checked.described {α : Type} (checked : Checked α) : List String :=
  checked.violations.map Violation.describe

/-- A value of a wrong kind in words. -/
theorem describe_expected (path what : String) (value : Value) :
    Violation.describe ⟨path, .expected what value.kind⟩ = mismatch path what value := by
  have colon : ": expected " = ": " ++ "expected " := rfl
  simp only [Violation.describe, Complaint.describe, mismatch, colon, String.append_assoc]

/-- A missing member in words. -/
theorem describe_missing (path : String) :
    Violation.describe ⟨path, .missing⟩ = absence path := by
  have colon : ": missing required field" = ": " ++ "missing required field" := rfl
  simp only [Violation.describe, Complaint.describe, absence, colon, String.append_assoc]

/-- A blank member in words. -/
theorem describe_blank (path : String) :
    Violation.describe ⟨path, .blank⟩ = path ++ ": must not be empty" := by
  have colon : ": must not be empty" = ": " ++ "must not be empty" := rfl
  simp only [Violation.describe, Complaint.describe, colon, String.append_assoc]

/-- Names are listed that members have. -/
theorem mem_ascendingNames {members : Members} {name : String} :
    name ∈ ascendingNames members ↔ name ∈ members.map Prod.fst := by
  rw [ascendingNames, List.mem_mergeSort, List.mem_eraseDups]

/-- No name is listed twice. -/
theorem nodup_ascendingNames (members : Members) : (ascendingNames members).Nodup :=
  (List.mergeSort_perm _ _).nodup_iff.mpr (nodup_eraseDups _)

/-- Names are listed in ascending order. -/
theorem ascending_ascendingNames (members : Members) :
    (ascendingNames members).Pairwise fun a b => a < b := by
  have ordered : (ascendingNames members).Pairwise fun a b => (!decide (b < a)) = true := by
    refine List.pairwise_mergeSort (fun a b c ab bc => ?_) (fun a b => ?_) _
    · simp only [Bool.not_eq_true', decide_eq_false_iff_not, String.not_lt] at ab bc ⊢
      exact String.le_trans ab bc
    · rcases String.le_total a b with below | above
      · rw [decide_eq_false (String.not_lt.mpr below), Bool.not_false, Bool.true_or]
      · rw [decide_eq_false (String.not_lt.mpr above), Bool.not_false, Bool.or_true]
  refine (ordered.and (nodup_ascendingNames members)).imp fun {a b} ⟨notAfter, differ⟩ => ?_
  by_contra notBefore
  simp only [Bool.not_eq_true', decide_eq_false_iff_not, String.not_lt] at notAfter notBefore
  exact differ (String.le_antisymm notAfter notBefore)

/-- The names of members are the keys of the dictionary that they make. -/
theorem keys_ofList (members : Members) :
    (Dictionary.ofList members).entries.map Prod.fst = ascendingNames members := by
  have ordered : ((Dictionary.ofList members).entries.map Prod.fst).Pairwise fun a b => a < b :=
    List.pairwise_map.mpr (Dictionary.ofList members).ascending
  apply Dictionary.eq_of_ordered String.lt_asymm ordered (ascending_ascendingNames members)
  intro name
  rw [mem_ascendingNames]
  constructor
  · intro key
    obtain ⟨entry, mem, rfl⟩ := List.mem_map.mp key
    rw [Dictionary.mem_entries_iff, Dictionary.get?_ofList] at mem
    exact List.mem_map.mpr ⟨_, mem_of_member? mem, rfl⟩
  · intro known
    cases found : Value.member? members name with
    | none =>
      obtain ⟨member, mem, rfl⟩ := List.mem_map.mp known
      have other := List.lookup_eq_none_iff.mp found member (List.mem_reverse.mpr mem)
      exact absurd rfl (bne_iff_ne.mp other)
    | some value =>
      have mem : (name, value) ∈ (Dictionary.ofList members).entries := by
        rwa [Dictionary.mem_entries_iff, Dictionary.get?_ofList]
      exact List.mem_map.mpr ⟨_, mem, rfl⟩

/-- What is made of the entries of a dictionary is made of the members under their names. -/
theorem filterMap_entries_ofList {β : Type} (members : Members)
    (make : String × Value → Option β) :
    (Dictionary.ofList members).entries.filterMap make =
      (ascendingNames members).filterMap fun name =>
        (Value.member? members name).bind fun value => make (name, value) := by
  rw [← keys_ofList, List.filterMap_map]
  apply List.filterMap_congr
  intro entry mem
  rw [Dictionary.mem_entries_iff, Dictionary.get?_ofList] at mem
  rw [Function.comp_apply, Value.member?, mem, Option.bind_some]

/-- The check of a required string reports what the demand asks for. -/
theorem described_requiredString (members : Members) (path name : String) :
    (requiredString members path name).described =
      Demand.id.report (path ++ "." ++ name) (Value.member? members name) := by
  unfold requiredString
  cases Value.member? members name with
  | none => exact congrArg ([·]) (describe_missing _)
  | some value =>
    cases value with
    | text s =>
      cases blank : isBlankString s with
      | true =>
        simp only [blank, Demand.report, if_true]
        exact congrArg ([·]) (describe_blank _)
      | false => simp [blank, Demand.report, Checked.described, Checked.accept]
    | _ => exact congrArg ([·]) (describe_expected _ _ _)

/-- The check of an optional string reports what the demand asks for. -/
theorem described_optionalString (members : Members) (path name : String) :
    (optionalString members path name).described =
      Demand.text.report (path ++ "." ++ name) (Value.member? members name) := by
  unfold optionalString
  cases Value.member? members name with
  | none => rfl
  | some value =>
    cases value with
    | null => rfl
    | text s => rfl
    | _ => exact congrArg ([·]) (describe_expected _ _ _)

/-- The check of properties reports what the demand asks for. -/
theorem described_properties (members : Members) (path : String) :
    (properties members path).described =
      Demand.properties.report (path ++ "." ++ "props") (Value.member? members "props") := by
  unfold properties
  cases Value.member? members "props" with
  | none => rfl
  | some value =>
    cases value with
    | null => rfl
    | object entries =>
      simp only [Checked.described, Demand.report]
      rw [filterMap_entries_ofList, List.map_filterMap]
      apply List.filterMap_congr
      intro key _
      cases Value.member? entries key with
      | none => rfl
      | some value =>
        cases value with
        | text s => rfl
        | _ => exact congrArg some (describe_expected _ _ _)
    | _ => exact congrArg ([·]) (describe_expected _ _ _)

/-- The check of a node reports on each of its members. -/
theorem described_node (members : Members) (path : String) :
    (node members path).described = elementReport nodeDemands path (.object members) := by
  have parts : (node members path).described = (requiredString members path "id").described ++
      (optionalString members path "label").described ++
      (optionalString members path "kind").described ++ (properties members path).described := by
    simp only [Checked.described, node, List.map_append]
  rw [parts, described_requiredString, described_optionalString, described_optionalString,
    described_properties]
  simp [elementReport, nodeDemands]

/-- The check of an edge reports on each of its members. -/
theorem described_edge (members : Members) (path : String) :
    (edge members path).described = elementReport edgeDemands path (.object members) := by
  have parts : (edge members path).described = (requiredString members path "source").described ++
      (requiredString members path "target").described ++
      (optionalString members path "label").described ++
      (optionalString members path "kind").described := by
    simp only [Checked.described, edge, List.map_append]
  rw [parts, described_requiredString, described_requiredString, described_optionalString,
    described_optionalString]
  simp [elementReport, edgeDemands]

/-- The check of an array reports on each of its elements. -/
theorem described_elements {α : Type} {check : Members → String → Checked α}
    {demands : List (String × Demand)}
    (reports : ∀ members path, (check members path).described =
      elementReport demands path (.object members)) (members : Members) (name : String) :
    (elements check members name).described =
      arrayReport demands name (Value.member? members name) := by
  have each (index : Nat) (item : Value) : (object check (elementPath name index) item).described =
      elementReport demands (name ++ "[" ++ toString index ++ "]") item := by
    cases item with
    | object entries => exact reports entries _
    | _ => exact congrArg ([·]) (describe_expected _ _ _)
  unfold elements
  cases Value.member? members name with
  | none => exact congrArg ([·]) (describe_missing _)
  | some value =>
    cases value with
    | array items =>
      simp only [Checked.described, arrayReport, List.map_flatMap, List.mapIdx_eq_zipIdx_map,
        List.flatMap_map]
      exact List.flatMap_congr fun entry _ => each entry.2 entry.1
    | _ => exact congrArg ([·]) (describe_expected _ _ _)

/-! ## Texts of a report -/

/-- Whether a character ends the name of a member, so that a path goes on or is complete. -/
def isMark (c : Char) : Bool :=
  c == '.' || c == ':'

/-- Whether a name has no mark in it. -/
def IsUnmarked (name : String) : Prop :=
  ∀ c ∈ name.toList, isMark c = false

instance (name : String) : Decidable (IsUnmarked name) :=
  decidable_of_iff (name.toList.all fun c => !isMark c) (by simp [IsUnmarked])

/-- Whether a text is about a path: it begins with it, and a mark stands behind it. -/
def IsAbout (path text : String) : Prop :=
  ∃ mark rest, isMark mark = true ∧ text.toList = path.toList ++ mark :: rest

/-- A text about a value of a wrong kind is about its path. -/
theorem isAbout_mismatch (path what : String) (value : Value) :
    IsAbout path (mismatch path what value) :=
  ⟨':', " expected ".toList ++ (what ++ ", found " ++ value.kind.name).toList, rfl, by
    simp [mismatch]⟩

/-- A text about a member that is missing is about its path. -/
theorem isAbout_absence (path : String) : IsAbout path (absence path) :=
  ⟨':', " missing required field".toList, rfl, by simp [absence]⟩

/-- What is about a path within another one is about that one. -/
theorem IsAbout.of_member {path name text : String} (about : IsAbout (path ++ "." ++ name) text) :
    IsAbout path text := by
  obtain ⟨mark, rest, -, written⟩ := about
  exact ⟨'.', name.toList ++ mark :: rest, rfl, by simp [written]⟩

/-- What is reported of a property is that it is no string. -/
theorem eq_mismatch_of_propertyReport {path text : String} {value : Option Value}
    (reported : propertyReport path value = some text) :
    ∃ other, text = mismatch path "string" other := by
  unfold propertyReport at reported
  split at reported
  · cases reported
  · cases reported
  · exact ⟨_, (Option.some.inj reported).symm⟩

/-- Whatever is reported of a member is about its path. -/
theorem isAbout_of_mem_report {path text : String} {demand : Demand} {value : Option Value}
    (mem : text ∈ demand.report path value) : IsAbout path text := by
  have wrongKind {what : String} {value : Value} (mem : text ∈ [mismatch path what value]) :
      IsAbout path text := List.mem_singleton.mp mem ▸ isAbout_mismatch path what value
  cases demand with
  | id =>
    cases value with
    | none => exact List.mem_singleton.mp mem ▸ isAbout_absence path
    | some value =>
      cases value with
      | text s =>
        obtain ⟨-, rfl⟩ : isBlankString s = true ∧ text = path ++ ": must not be empty" := by
          simpa [Demand.report] using mem
        exact ⟨':', " must not be empty".toList, rfl, by simp⟩
      | _ => exact wrongKind mem
  | text =>
    cases value with
    | none => cases mem
    | some value =>
      cases value with
      | null | text s => cases mem
      | _ => exact wrongKind mem
  | properties =>
    cases value with
    | none => cases mem
    | some value =>
      cases value with
      | null => cases mem
      | object entries =>
        obtain ⟨key, -, reported⟩ := List.mem_filterMap.mp mem
        obtain ⟨value, rfl⟩ := eq_mismatch_of_propertyReport reported
        exact (isAbout_mismatch _ _ _).of_member
      | _ => exact wrongKind mem

/-- Whatever is reported of an element is about its path. -/
theorem isAbout_of_mem_elementReport {demands : List (String × Demand)} {path text : String}
    {item : Value} (mem : text ∈ elementReport demands path item) : IsAbout path text := by
  cases item with
  | object members =>
    obtain ⟨demand, -, mem⟩ := List.mem_flatMap.mp mem
    exact (isAbout_of_mem_report mem).of_member
  | _ => exact List.mem_singleton.mp mem ▸ isAbout_mismatch path _ _

/-! ## No text twice -/

/-- Texts about a member of one path tell the name of the member, which has no mark in it. -/
theorem eq_of_isAbout_member {path name name' text : String}
    (unmarked : IsUnmarked name) (unmarked' : IsUnmarked name')
    (about : IsAbout (path ++ "." ++ name) text) (about' : IsAbout (path ++ "." ++ name') text) :
    name = name' := by
  obtain ⟨mark, rest, marks, written⟩ := about
  obtain ⟨mark', rest', marks', written'⟩ := about'
  have same : path.toList ++ ".".toList ++ (name.toList ++ mark :: rest) =
      path.toList ++ ".".toList ++ (name'.toList ++ mark' :: rest') := by
    simpa [written] using written'
  have stops {mark : Char} {rest : List Char} (marks : isMark mark = true) :
      Stops (fun c => !isMark c) (mark :: rest) := stops_cons.mpr (by simp [marks])
  have names := append_inj_of_stops (p := fun c => !isMark c)
    (fun c mem => by simp [unmarked c mem]) (stops marks)
    (fun c mem => by simp [unmarked' c mem]) (stops marks') (List.append_cancel_left same)
  exact String.toList_inj.mp names.1

/-- Texts about an element of one array tell its index. -/
theorem eq_of_isAbout_element {name text : String} {index index' : Nat}
    (about : IsAbout (name ++ "[" ++ toString index ++ "]") text)
    (about' : IsAbout (name ++ "[" ++ toString index' ++ "]") text) : index = index' := by
  obtain ⟨mark, rest, -, written⟩ := about
  obtain ⟨mark', rest', -, written'⟩ := about'
  have same : name.toList ++ "[".toList ++ ((toString index).toList ++ ']' :: mark :: rest) =
      name.toList ++ "[".toList ++ ((toString index').toList ++ ']' :: mark' :: rest') := by
    simpa [written] using written'
  have digits (n : Nat) : ∀ c ∈ (toString n).toList, c.isDigit = true := by
    rw [Nat.toString_eq_repr, Nat.toList_repr]
    exact fun c mem => Nat.isDigit_of_mem_toDigits (by decide) (by decide) mem
  have numerals := append_inj_of_stops (digits index) (stops_cons.mpr rfl) (digits index')
    (stops_cons.mpr rfl) (List.append_cancel_left same)
  exact toString_injective (String.toList_inj.mp numerals.1)

/-- No name of a kind has a space in it. -/
theorem ne_space_of_mem_kind (kind : Kind) : ∀ c ∈ kind.name.toList, (c != ' ') = true := by
  apply List.all_eq_true.mp
  cases kind <;> rfl

/-- Texts about properties that are no strings tell the key, whatever the key is. -/
theorem eq_of_mismatch {path key key' : String} {value value' : Value}
    (same : mismatch (path ++ "." ++ key) "string" value =
      mismatch (path ++ "." ++ key') "string" value') : key = key' := by
  have chars : path.toList ++ ".".toList ++
        (key.toList ++ (": expected string, found".toList ++ ' ' :: value.kind.name.toList)) =
      path.toList ++ ".".toList ++
        (key'.toList ++ (": expected string, found".toList ++ ' ' :: value'.kind.name.toList)) := by
    simpa [mismatch] using congrArg String.toList same
  -- The key may hold the words behind it, so the text is read from its end.
  have reversed := congrArg List.reverse (List.append_cancel_left chars)
  simp only [List.reverse_append, List.reverse_cons, List.append_assoc,
    List.singleton_append] at reversed
  have kinds (value : Value) : ∀ c ∈ value.kind.name.toList.reverse, (c != ' ') = true :=
    fun c mem => ne_space_of_mem_kind _ c (List.mem_reverse.mp mem)
  have stops (rest : List Char) : Stops (· != ' ') (' ' :: rest) := stops_cons.mpr (by decide)
  obtain ⟨-, behind⟩ := append_inj_of_stops (kinds _) (stops _) (kinds _) (stops _) reversed
  have keys := List.append_cancel_left (List.cons.inj behind).2
  exact String.toList_inj.mp (List.reverse_injective keys)

/-- Nothing is reported twice of a member. -/
theorem nodup_report (path : String) (demand : Demand) (value : Option Value) :
    (demand.report path value).Nodup := by
  cases demand with
  | id =>
    cases value with
    | none => exact List.nodup_singleton _
    | some value =>
      cases value with
      | text s =>
        simp only [Demand.report]
        split
        · exact List.nodup_singleton _
        · exact List.nodup_nil
      | _ => exact List.nodup_singleton _
  | text =>
    cases value with
    | none => exact List.nodup_nil
    | some value =>
      cases value with
      | null | text s => exact List.nodup_nil
      | _ => exact List.nodup_singleton _
  | properties =>
    cases value with
    | none => exact List.nodup_nil
    | some value =>
      cases value with
      | null => exact List.nodup_nil
      | object entries =>
        refine (nodup_ascendingNames entries).filterMap fun key key' text reported reported' => ?_
        obtain ⟨value, rfl⟩ := eq_mismatch_of_propertyReport reported
        obtain ⟨value', same⟩ := eq_mismatch_of_propertyReport reported'
        exact eq_of_mismatch same
      | _ => exact List.nodup_singleton _

/-- Whether demands are of members with different names, none with a mark in it. -/
structure AreTold (demands : List (String × Demand)) : Prop where
  distinct : (demands.map Prod.fst).Nodup
  unmarked : ∀ demand ∈ demands, IsUnmarked demand.1

/-- Nothing is reported twice of an element. -/
theorem nodup_elementReport {demands : List (String × Demand)} (told : AreTold demands)
    (path : String) (item : Value) : (elementReport demands path item).Nodup := by
  cases item with
  | object members =>
    refine List.nodup_flatMap.mpr ⟨fun demand _ => nodup_report _ _ _, ?_⟩
    refine (List.pairwise_map.mp told.distinct).imp_of_mem fun {a b} mem mem' differ => ?_
    intro text here there
    exact differ (eq_of_isAbout_member (told.unmarked a mem) (told.unmarked b mem')
      (isAbout_of_mem_report here) (isAbout_of_mem_report there))
  | _ => exact List.nodup_singleton _

/-- Nothing is reported twice of an array. -/
theorem nodup_arrayReport {demands : List (String × Demand)} (told : AreTold demands)
    (name : String) (value : Option Value) : (arrayReport demands name value).Nodup := by
  cases value with
  | none => exact List.nodup_singleton _
  | some value =>
    cases value with
    | array items =>
      have indices : (items.zipIdx.map Prod.snd).Nodup := by
        rw [List.zipIdx_map_snd]
        exact List.nodup_range'
      refine List.nodup_flatMap.mpr ⟨fun entry _ => nodup_elementReport told _ _, ?_⟩
      refine (List.pairwise_map.mp indices).imp fun {a b} differ text here there => ?_
      exact differ (eq_of_isAbout_element (isAbout_of_mem_elementReport here)
        (isAbout_of_mem_elementReport there))
    | _ => exact List.nodup_singleton _

/-- Whatever is reported of an array begins with its name. -/
theorem beginsWith_of_mem_arrayReport {demands : List (String × Demand)} {name text : String}
    {value : Option Value} (mem : text ∈ arrayReport demands name value) :
    ∃ rest, text.toList = name.toList ++ rest := by
  have of_about (about : IsAbout name text) : ∃ rest, text.toList = name.toList ++ rest := by
    obtain ⟨mark, rest, -, written⟩ := about
    exact ⟨_, written⟩
  cases value with
  | none => exact of_about (List.mem_singleton.mp mem ▸ isAbout_absence name)
  | some value =>
    cases value with
    | array items =>
      obtain ⟨entry, -, mem⟩ := List.mem_flatMap.mp mem
      obtain ⟨mark, rest, -, written⟩ := isAbout_of_mem_elementReport mem
      exact ⟨_, by rw [written, String.append_assoc, String.append_assoc, String.toList_append,
        List.append_assoc]⟩
    | _ => exact of_about (List.mem_singleton.mp mem ▸ isAbout_mismatch name _ _)

/-- The members of a node have names of their own. -/
theorem areTold_nodeDemands : AreTold nodeDemands := ⟨by decide, by decide⟩

/-- The members of an edge have names of their own. -/
theorem areTold_edgeDemands : AreTold edgeDemands := ⟨by decide, by decide⟩

/-- Nothing is reported twice. -/
theorem nodup_reports (members : Members) : (report members).Nodup := by
  refine List.nodup_append.mpr ⟨nodup_arrayReport areTold_nodeDemands _ _,
    nodup_arrayReport areTold_edgeDemands _ _, ?_⟩
  rintro text mem other mem' rfl
  obtain ⟨rest, written⟩ := beginsWith_of_mem_arrayReport mem
  obtain ⟨rest', written'⟩ := beginsWith_of_mem_arrayReport mem'
  have first := congrArg List.head? (written.symm.trans written')
  simp at first

/-- The checks of an object report on its nodes and on its edges. -/
theorem described_graphMembers (members : Members) :
    (graphMembers members).described = report members := by
  have parts : (graphMembers members).described = (elements node members "nodes").described ++
      (elements edge members "edges").described := by
    simp only [Checked.described, graphMembers, List.map_append]
  rw [parts, described_elements described_node, described_elements described_edge, report]

end PromptDiagram.Schema

namespace PromptDiagram.Extraction

open Json

/-- The violations of the schema that a result reports. -/
def reported : Result → List String
  | .error (.schema violations) => violations
  | _ => []

/-- Every violation in an object is reported once: what is wrong with the nodes as a whole and with
each node in its order, then the same of the edges, and no text twice. What is reported of an
element depends on its index and on the element alone. -/
theorem valueGraph_reports_once (members : Schema.Members) :
    reported (valueGraph (.object members)) = Schema.report members ∧
      (Schema.report members).Nodup := by
  refine ⟨?_, Schema.nodup_reports members⟩
  rw [← Schema.described_graphMembers, Schema.Checked.described, valueGraph]
  by_cases clean : (Schema.graphMembers members).violations = []
  · obtain ⟨graph, described⟩ := (Schema.recognizes_graphMembers members).complete clean
    have accepts := (Schema.recognizes_graphMembers members).accepts described
    rw [Schema.validate_of_accept accepts, clean]
    rfl
  · rw [Schema.validate_of_violations clean]
    rfl

end PromptDiagram.Extraction
