import Mathlib.Data.List.Forall2
import PromptDiagram.Extraction
import PromptDiagram.Proofs.Dictionary
import PromptDiagram.Proofs.Extraction.Schema

/-!
# What values describe

A value describes a graph when its members say what the nodes and the edges of the graph are, one
element for each, in their order and with nothing left out. This is said without the checks of the
schema. The checks recognize it: they make the graph that a value describes, and they find a
violation in every value that describes none.
-/

namespace PromptDiagram

open Json Text

namespace Schema

/-! ## Descriptions -/

/-- Whether what stands under a name is an optional text: nothing or null where there is none. -/
inductive IsOptionalText : Option Value → Option String → Prop
  | missing : IsOptionalText none none
  | null : IsOptionalText (some .null) none
  | text (s : String) : IsOptionalText (some (.text s)) (some s)

/-- Whether what stands under a name are optional properties: an object with the same keys, each for
the text of the property, and nothing or null where there are none. -/
inductive IsProperties : Option Value → Option (Dictionary String) → Prop
  | missing : IsProperties none none
  | null : IsProperties (some .null) none
  | object {entries : Members} {props : Dictionary String} :
      (∀ key, Value.member? entries key = (props.get? key).map .text) →
      IsProperties (some (.object entries)) (some props)

/-- Whether the members of an object say what a node is. -/
structure DescribesNode (members : Members) (node : Node) : Prop where
  id : Value.member? members "id" = some (.text node.id)
  visible : isBlankString node.id = false
  label : IsOptionalText (Value.member? members "label") node.label
  kind : IsOptionalText (Value.member? members "kind") node.kind
  props : IsProperties (Value.member? members "props") node.props

/-- Whether the members of an object say what an edge is. -/
structure DescribesEdge (members : Members) (edge : Edge) : Prop where
  source : Value.member? members "source" = some (.text edge.source)
  visibleSource : isBlankString edge.source = false
  target : Value.member? members "target" = some (.text edge.target)
  visibleTarget : isBlankString edge.target = false
  label : IsOptionalText (Value.member? members "label") edge.label
  kind : IsOptionalText (Value.member? members "kind") edge.kind

/-- Whether a value is an object whose members describe something. -/
inductive ObjectDescribes {α : Type} (described : Members → α → Prop) : Value → α → Prop
  | object {members : Members} {a : α} :
      described members a → ObjectDescribes described (.object members) a

/-- Whether what stands under a name is an array whose elements are objects that describe the items
of a list, one for each and in their order. -/
inductive IsArrayOf {α : Type} (described : Members → α → Prop) : Option Value → List α → Prop
  | array {items : List Value} {as : List α} :
      List.Forall₂ (ObjectDescribes described) items as →
      IsArrayOf described (some (.array items)) as

/-- Whether the members of an object say what the nodes and the edges of a graph are. -/
structure DescribesGraph (members : Members) (graph : Graph) : Prop where
  nodes : IsArrayOf DescribesNode (Value.member? members "nodes") graph.nodes
  edges : IsArrayOf DescribesEdge (Value.member? members "edges") graph.edges

/-- Whether a value describes a graph. -/
def Describes : Value → Graph → Prop :=
  ObjectDescribes DescribesGraph

variable {α : Type}

/-- Whether a check recognizes a description: it accepts whatever is described, and it finds nothing
wrong only where something is. -/
structure Checked.Recognizes (checked : Checked α) (described : α → Prop) : Prop where
  accepts : ∀ {a}, described a → checked = .accept a
  complete : checked.violations = [] → ∃ a, described a

/-! ## Members -/

variable (members : Members) (path name : String)

/-- A rejection recognizes that nothing is described. -/
theorem recognizes_reject {described : α → Prop} (path : String) (complaint : Complaint)
    (undescribed : ∀ a, ¬described a) : (Checked.reject path complaint).Recognizes described where
  accepts := fun is => absurd is (undescribed _)
  complete := fun clean => absurd clean (List.cons_ne_nil _ _)

/-- A required string is recognized if it is more than blanks. -/
theorem recognizes_requiredString : (requiredString members path name).Recognizes fun s =>
    Value.member? members name = some (.text s) ∧ isBlankString s = false where
  accepts := fun ⟨written, visible⟩ => requiredString_text _ written visible
  complete := by
    intro clean
    unfold requiredString at clean
    split at clean
    · rename_i s written
      split at clean
      · cases clean
      · rename_i visible
        exact ⟨s, written, Bool.eq_false_iff.mpr visible⟩
    · cases clean
    · cases clean

/-- An optional string is recognized. -/
theorem recognizes_optionalString : (optionalString members path name).Recognizes
    (IsOptionalText (Value.member? members name)) := by
  unfold optionalString
  generalize Value.member? members name = written
  constructor
  · intro text described
    cases described <;> rfl
  · intro clean
    split at clean
    · exact ⟨_, .missing⟩
    · exact ⟨_, .null⟩
    · exact ⟨_, .text _⟩
    · cases clean

/-- Entries with which nothing is wrong are those of their texts. -/
theorem eq_of_filterMap_propertyViolation? {entries : Members}
    (clean : entries.filterMap (propertyViolation? path) = []) :
    entries = (entries.filterMap propertyEntry?).map fun entry => (entry.1, .text entry.2) := by
  induction entries with
  | nil => rfl
  | cons entry entries ih =>
    obtain ⟨here, behind⟩ := List.forall_mem_cons.mp (List.filterMap_eq_nil_iff.mp clean)
    obtain ⟨key, value⟩ := entry
    cases value with
    | text s =>
      have found : propertyEntry? (key, .text s) = some (key, s) := rfl
      rw [List.filterMap_cons_some found, List.map_cons,
        ← ih (List.filterMap_eq_nil_iff.mpr behind)]
    | _ => cases here

/-- What is found among entries of texts is the text of the key. -/
theorem lookup_map_text (texts : List (String × String)) (key : String) :
    (texts.map fun entry => (entry.1, Value.text entry.2)).lookup key =
      (texts.lookup key).map .text := by
  induction texts with
  | nil => rfl
  | cons entry texts ih =>
    rw [List.map_cons, Dictionary.lookup_cons_eq_ite, Dictionary.lookup_cons_eq_ite, ih]
    split <;> rfl

/-- An object has the keys of properties, each for its text, exactly if its entries are theirs. -/
theorem member?_eq_iff {entries : Members} {props : Dictionary String} :
    (∀ key, Value.member? entries key = (props.get? key).map .text) ↔
      (Dictionary.ofList entries).entries =
        props.entries.map fun entry => (entry.1, .text entry.2) := by
  have written : (Dictionary.ofList (props.entries.map fun entry =>
      (entry.1, Value.text entry.2))).entries =
        props.entries.map fun entry => (entry.1, .text entry.2) := by
    rw [Dictionary.entries_ofList_map, Dictionary.ofList_entries]
  constructor
  · intro same
    rw [← written]
    congr 1
    apply Dictionary.eq_of_get?
    intro key
    rw [Dictionary.get?_ofList, ← Value.member?, same, Dictionary.get?, Dictionary.get?, written,
      lookup_map_text]
  · intro same key
    rw [Value.member?, ← Dictionary.get?_ofList, Dictionary.get?, same, lookup_map_text,
      Dictionary.get?]

/-- Properties are recognized. -/
theorem recognizes_properties : (properties members path).Recognizes
    (IsProperties (Value.member? members "props")) := by
  unfold properties
  generalize Value.member? members "props" = written
  constructor
  · intro props described
    cases described with
    | missing => rfl
    | null => rfl
    | object same =>
      simp only [member?_eq_iff.mp same, filterMap_propertyEntry?, filterMap_propertyViolation?,
        Dictionary.ofList_entries]
      rfl
  · intro clean
    dsimp only at clean
    split at clean
    · exact ⟨_, .missing⟩
    · exact ⟨_, .null⟩
    · rename_i entries
      have texts := eq_of_filterMap_propertyViolation? _ clean
      generalize (Dictionary.ofList entries).entries.filterMap propertyEntry? = found at texts
      have ascending : found.Pairwise fun a b => a.1 < b.1 := by
        simpa [texts, List.pairwise_map] using (Dictionary.ofList entries).ascending
      exact ⟨some ⟨found, ascending⟩, .object (member?_eq_iff.mpr texts)⟩
    · cases clean

/-! ## Elements -/

/-- A node is recognized by its members. -/
theorem recognizes_node : (node members path).Recognizes (DescribesNode members) where
  accepts := by
    intro node described
    simp only [Schema.node,
      (recognizes_requiredString members path "id").accepts ⟨described.id, described.visible⟩,
      (recognizes_optionalString members path "label").accepts described.label,
      (recognizes_optionalString members path "kind").accepts described.kind,
      (recognizes_properties members path).accepts described.props]
    rfl
  complete := by
    intro clean
    simp only [Schema.node, List.append_eq_nil_iff] at clean
    obtain ⟨⟨⟨id, label⟩, kind⟩, props⟩ := clean
    obtain ⟨id, written, visible⟩ := (recognizes_requiredString members path "id").complete id
    obtain ⟨label, isLabel⟩ := (recognizes_optionalString members path "label").complete label
    obtain ⟨kind, isKind⟩ := (recognizes_optionalString members path "kind").complete kind
    obtain ⟨props, areProps⟩ := (recognizes_properties members path).complete props
    exact ⟨⟨id, label, kind, props⟩, written, visible, isLabel, isKind, areProps⟩

/-- An edge is recognized by its members. -/
theorem recognizes_edge : (edge members path).Recognizes (DescribesEdge members) where
  accepts := by
    intro edge described
    simp only [Schema.edge,
      (recognizes_requiredString members path "source").accepts
        ⟨described.source, described.visibleSource⟩,
      (recognizes_requiredString members path "target").accepts
        ⟨described.target, described.visibleTarget⟩,
      (recognizes_optionalString members path "label").accepts described.label,
      (recognizes_optionalString members path "kind").accepts described.kind]
    rfl
  complete := by
    intro clean
    simp only [Schema.edge, List.append_eq_nil_iff] at clean
    obtain ⟨⟨⟨source, target⟩, label⟩, kind⟩ := clean
    obtain ⟨source, isSource⟩ := (recognizes_requiredString members path "source").complete source
    obtain ⟨target, isTarget⟩ := (recognizes_requiredString members path "target").complete target
    obtain ⟨label, isLabel⟩ := (recognizes_optionalString members path "label").complete label
    obtain ⟨kind, isKind⟩ := (recognizes_optionalString members path "kind").complete kind
    exact ⟨⟨source, target, label, kind⟩, isSource.1, isSource.2, isTarget.1, isTarget.2, isLabel,
      isKind⟩

variable {described : Members → α → Prop} {check : Members → String → Checked α}

/-- An element is recognized if it is an object whose members are. -/
theorem recognizes_object (recognizes : ∀ members, (check members path).Recognizes
    (described members)) (value : Value) :
    (object check path value).Recognizes (ObjectDescribes described value) := by
  cases value with
  | object members =>
    refine ⟨fun is => ?_, fun clean => ?_⟩
    · cases is with
      | object is => exact (recognizes members).accepts is
    · obtain ⟨a, is⟩ := (recognizes members).complete clean
      exact ⟨a, .object is⟩
  | _ => exact recognizes_reject _ _ fun a is => nomatch is

/-- Elements are recognized one by one. -/
theorem recognizes_mapIdx {check : Nat → Value → Checked α} {described : Value → α → Prop}
    (recognizes : ∀ index item, (check index item).Recognizes (described item))
    (items : List Value) :
    (Checked.mk (some ((items.mapIdx check).filterMap Checked.result))
      ((items.mapIdx check).flatMap Checked.violations)).Recognizes
        (List.Forall₂ described items) := by
  induction items generalizing check with
  | nil =>
    refine ⟨fun is => ?_, fun _ => ⟨[], .nil⟩⟩
    cases is
    rfl
  | cons item items ih =>
    have others := @ih (fun index => check (index + 1)) fun index => recognizes (index + 1)
    simp only [List.mapIdx_cons]
    constructor
    · intro as is
      cases is with
      | cons first rest =>
        have here := (recognizes 0 item).accepts first
        have behind := others.accepts rest
        simp only [Checked.accept, Checked.mk.injEq, Option.some.injEq] at behind
        simp [here, Checked.accept, behind.1, behind.2]
    · intro clean
      rw [List.flatMap_cons, List.append_eq_nil_iff] at clean
      obtain ⟨a, first⟩ := (recognizes 0 item).complete clean.1
      obtain ⟨as, rest⟩ := others.complete clean.2
      exact ⟨a :: as, .cons first rest⟩

/-- An array is recognized if each of its elements is. -/
theorem recognizes_elements (recognizes : ∀ members path, (check members path).Recognizes
    (described members)) :
    (elements check members name).Recognizes
      (IsArrayOf described (Value.member? members name)) := by
  unfold elements
  generalize Value.member? members name = written
  split
  · rename_i items
    have all := recognizes_mapIdx (fun index item => recognizes_object
      (elementPath name index) (fun members => recognizes members _) item) items
    refine ⟨fun is => ?_, fun clean => ?_⟩
    · cases is with
      | array is => exact all.accepts is
    · obtain ⟨as, is⟩ := all.complete clean
      exact ⟨as, .array is⟩
  · rename_i other
    refine recognizes_reject _ _ fun as is => ?_
    cases is
    exact other _ rfl
  · exact recognizes_reject _ _ fun as is => nomatch is

/-! ## Graphs -/

/-- A graph is recognized by its members. -/
theorem recognizes_graphMembers : (graphMembers members).Recognizes (DescribesGraph members) where
  accepts := by
    intro graph described
    simp only [graphMembers, (recognizes_elements members "nodes" recognizes_node).accepts
      described.nodes, (recognizes_elements members "edges" recognizes_edge).accepts
      described.edges]
    rfl
  complete := by
    intro clean
    simp only [graphMembers, List.append_eq_nil_iff] at clean
    obtain ⟨nodes, is⟩ := (recognizes_elements members "nodes" recognizes_node).complete clean.1
    obtain ⟨edges, is'⟩ := (recognizes_elements members "edges" recognizes_edge).complete clean.2
    exact ⟨⟨nodes, edges⟩, is, is'⟩

/-- An object whose members are accepted makes their graph. -/
theorem validate_of_accept {members : Members} {graph : Graph}
    (accepts : graphMembers members = .accept graph) :
    validate (.object members) = .ok graph := by
  rw [validate, accepts]
  rfl

/-- An object whose members violate the schema is refused with all their violations. -/
theorem validate_of_violations {members : Members}
    (violates : (graphMembers members).violations ≠ []) :
    validate (.object members) = .error (graphMembers members).violations := by
  unfold validate
  dsimp only
  split
  · rename_i clean
    exact absurd (congrArg Checked.violations clean) violates
  · rename_i others
    rw [others]

/-- A value describes one graph, which is made of it, or it describes none and is refused. -/
theorem validate_cases (value : Value) :
    (∃ graph, (∀ other, Describes value other ↔ other = graph) ∧ validate value = .ok graph) ∨
      (∀ graph, ¬Describes value graph) ∧
        ∃ violations, violations ≠ [] ∧ validate value = .error violations := by
  cases value with
  | object members =>
    have recognizes := recognizes_graphMembers members
    by_cases clean : (graphMembers members).violations = []
    · obtain ⟨graph, is⟩ := recognizes.complete clean
      refine .inl ⟨graph, fun other => ⟨?_, ?_⟩, validate_of_accept (recognizes.accepts is)⟩
      · rintro ⟨is'⟩
        have same := (recognizes.accepts is').symm.trans (recognizes.accepts is)
        simpa [Checked.accept] using same
      · rintro rfl
        exact .object is
    · refine .inr ⟨?_, _, clean, validate_of_violations clean⟩
      rintro graph ⟨is⟩
      exact clean (congrArg Checked.violations (recognizes.accepts is))
  | _ =>
    refine .inr ⟨?_, _, List.cons_ne_nil _ _, rfl⟩
    rintro graph ⟨⟩

/-- A graph is made of a value exactly if the value describes it. -/
theorem validate_eq_ok_iff_describes {value : Value} {graph : Graph} :
    validate value = .ok graph ↔ Describes value graph := by
  rcases validate_cases value with ⟨made, described, result⟩ | ⟨undescribed, violations, -, result⟩
  · rw [described, result]
    exact ⟨fun same => (Except.ok.inj same).symm, fun same => congrArg Except.ok same.symm⟩
  · rw [result]
    exact ⟨fun same => (nomatch same), fun described => absurd described (undescribed graph)⟩

end Schema

namespace Extraction

/-- A graph comes of a value exactly if the value describes it. -/
theorem valueGraph_eq_ok_iff {value : Json.Value} {graph : Graph} :
    valueGraph value = .ok graph ↔ Schema.Describes value graph := by
  rw [← Schema.validate_eq_ok_iff_describes, valueGraph]
  split <;> simp_all

/-- What comes of a value is the graph that it describes, and nothing is dropped: a node for each
element of its nodes and an edge for each element of its edges. A value that describes no graph is
refused for at least one violation of the schema. -/
theorem valueGraph_described (value : Json.Value) :
    (∀ graph, valueGraph value = .ok graph ↔ Schema.Describes value graph) ∧
    ((∃ graph, Schema.Describes value graph) ∨
      ∃ violation others, valueGraph value = .error (.schema (violation :: others))) := by
  refine ⟨fun graph => valueGraph_eq_ok_iff, ?_⟩
  rcases Schema.validate_cases value with
    ⟨graph, described, -⟩ | ⟨-, violations, violates, result⟩
  · exact .inl ⟨graph, (described graph).mpr rfl⟩
  · obtain ⟨violation, others, rfl⟩ := List.exists_cons_of_ne_nil violates
    refine .inr ⟨violation.describe, others.map Schema.Violation.describe, ?_⟩
    rw [valueGraph, result]
    rfl

end Extraction
end PromptDiagram
