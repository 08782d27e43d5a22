import PromptDiagram.Proofs.Extraction.Decoding
import PromptDiagram.Proofs.Extraction.Schema
import PromptDiagram.Proofs.Json.Writing

/-!
# Checking and decoding

The checks of the schema and the typed reader are two ways to a graph. One looks at a JSON value
and collects what is wrong with it, the other goes over the text and stops at the first fault.
Among texts without repeated names both make the same graphs, up to two things that only the schema
asks for: every element is an object, and no id is blank.
-/

namespace PromptDiagram.Schema

open Json Text

variable {α : Type}

/-! ## Outcomes -/

/-- Whether a check comes to an outcome: it accepts what there is, or it finds a violation. -/
def Checked.Decides (checked : Checked α) : Option α → Prop
  | some a => checked = .accept a
  | none => checked.violations ≠ []

/-- A check without an outcome finds a violation. -/
theorem Checked.Decides.violates {checked : Checked α} (decides : checked.Decides none) :
    checked.violations ≠ [] := decides

/-- A check with an outcome accepts it. -/
theorem Checked.Decides.accepts {checked : Checked α} {a : α} (decides : checked.Decides (some a)) :
    checked = .accept a := decides

/-- A check accepts or refuses what it comes to. -/
theorem Checked.Decides.cases {checked : Checked α} {outcome : Option α}
    (decides : checked.Decides outcome) :
    (∃ a, outcome = some a ∧ checked = .accept a) ∨
      outcome = none ∧ checked.violations ≠ [] := by
  cases outcome with
  | none => exact .inr ⟨rfl, decides⟩
  | some a => exact .inl ⟨a, rfl, decides⟩

/-- A rejection finds a violation. -/
theorem decides_reject (path : String) (complaint : Complaint) :
    (Checked.reject path complaint : Checked α).Decides none :=
  List.cons_ne_nil _ _

/-- Whether an id is more than blanks. -/
def visible (id : String) : Bool :=
  !isBlankString id

/-- What a required string comes to: one that is visible. -/
def visibleString? (members : Members) (name : String) : Option String :=
  (memberOf Value.text? members name).join.filter visible

/-- What an optional string comes to. -/
def string? (members : Members) (name : String) : Option (Option String) :=
  (memberOf (Value.option? Value.text?) members name).map Option.join

/-- What the properties come to. -/
def strings? (members : Members) : Option (Option (Dictionary String)) :=
  (memberOf (Value.option? (Value.dictionary? Value.text?)) members "props").map Option.join

variable (members : Members) (path name : String)

/-- A string is required that is more than blanks. -/
theorem decides_requiredString :
    (requiredString members path name).Decides (visibleString? members name) := by
  unfold requiredString visibleString? memberOf
  cases Value.member? members name with
  | none => exact decides_reject _ _
  | some value =>
    cases value with
    | text s =>
      cases blank : isBlankString s with
      | true =>
        have hidden : visible s = false := by rw [visible, blank]; rfl
        simp [Value.text?, Option.filter, hidden, blank, decides_reject]
      | false =>
        have shown : visible s = true := by rw [visible, blank]; rfl
        simp [Value.text?, Option.filter, shown, blank, Checked.Decides]
    | _ => exact decides_reject _ _

/-- A string or null may stand where a string may be missing. -/
theorem decides_optionalString :
    (optionalString members path name).Decides (string? members name) := by
  unfold optionalString string? memberOf
  cases Value.member? members name with
  | none => rfl
  | some value =>
    cases value with
    | null => rfl
    | text s => rfl
    | _ => exact decides_reject _ _

/-- Entries that all are strings are the entries of those strings. -/
theorem eq_of_mapM_pair? {entries : List (String × Value)} {texts : List (String × String)}
    (decoded : entries.mapM (Value.pair? Value.text?) = some texts) :
    entries = texts.map fun entry => (entry.1, .text entry.2) := by
  induction entries generalizing texts with
  | nil =>
    obtain rfl : texts = [] := by simpa using decoded.symm
    rfl
  | cons entry rest ih =>
    obtain ⟨name, value⟩ := entry
    simp only [List.mapM_cons, Option.bind_eq_bind, Option.bind_eq_some_iff, Option.pure_def,
      Option.some.injEq] at decoded
    obtain ⟨first, head, others, tail, rfl⟩ := decoded
    cases value with
    | text s =>
      obtain rfl : (name, s) = first := by simpa [Value.pair?, Value.text?] using head
      rw [ih tail]
      rfl
    | _ => simp [Value.pair?, Value.text?] at head

/-- Where not all entries are strings one of them is not. -/
theorem exists_of_mapM_pair? {entries : List (String × Value)}
    (undecoded : entries.mapM (Value.pair? Value.text?) = none) :
    ∃ entry ∈ entries, entry.2.text? = none := by
  induction entries with
  | nil => simp at undecoded
  | cons entry rest ih =>
    cases head : entry.2.text? with
    | none => exact ⟨entry, List.mem_cons_self, head⟩
    | some s =>
      cases tail : rest.mapM (Value.pair? Value.text?) with
      | none =>
        obtain ⟨entry, mem, undecoded⟩ := ih tail
        exact ⟨entry, List.mem_cons_of_mem _ mem, undecoded⟩
      | some others => simp [List.mapM_cons, Value.pair?, head, tail] at undecoded

/-- Properties are an object of strings, or null or missing. -/
theorem decides_properties
    (distinct : ∀ entries, Value.member? members "props" = some (.object entries) →
      (entries.map Prod.fst).Nodup) : (properties members path).Decides (strings? members) := by
  unfold properties strings? memberOf
  cases written : Value.member? members "props" with
  | none => rfl
  | some value =>
    cases value with
    | null => rfl
    | object entries =>
      simp only [Value.option?, Value.dictionary?]
      cases decoded : entries.mapM (Value.pair? Value.text?) with
      | some texts =>
        rw [eq_of_mapM_pair? decoded, Dictionary.entries_ofList_map, filterMap_propertyEntry?,
          filterMap_propertyViolation?, Dictionary.ofList_entries]
        rfl
      | none =>
        obtain ⟨entry, mem, undecoded⟩ := exists_of_mapM_pair? decoded
        have kept := Dictionary.mem_entries_ofList (distinct entries written) mem
        have violates : (propertyViolation? (memberPath path "props") entry).isSome := by
          cases other : entry.2 with
          | text s => simp [other, Value.text?] at undecoded
          | _ => simp [propertyViolation?, other]
        obtain ⟨violation, found⟩ := Option.isSome_iff_exists.mp violates
        exact List.ne_nil_of_mem (List.mem_filterMap.mpr ⟨entry, kept, found⟩)
    | _ => exact decides_reject _ _

/-! ## Elements -/

/-- A node with a visible id, part by part. -/
theorem filter_nodeOfMembers (members : Members) :
    (Node.ofMembers members).filter (fun node => visible node.id) = do
      let id ← visibleString? members "id"
      let label ← string? members "label"
      let kind ← string? members "kind"
      let props ← strings? members
      return { id, label, kind, props } := by
  unfold Node.ofMembers visibleString? string? strings?
  cases memberOf (Value.option? Value.text?) members "label" with
  | none => simp
  | some label =>
  cases memberOf (Value.option? Value.text?) members "kind" with
  | none => simp
  | some kind =>
  cases memberOf (Value.option? (Value.dictionary? Value.text?)) members "props" with
  | none => simp
  | some props =>
  rcases memberOf Value.text? members "id" with _ | _ | s
  · rfl
  · rfl
  · cases shown : visible s <;> simp [Option.filter, shown]

/-- A node is an object with a visible id. Where one of its members is refused the node is, too. -/
theorem decides_node {members : Members} (unrepeated : (Value.object members).unrepeated)
    (path : String) : (node members path).Decides
      ((Node.ofMembers members).filter fun node => visible node.id) := by
  have distinct (entries : Members)
      (written : Value.member? members "props" = some (.object entries)) :
      (entries.map Prod.fst).Nodup :=
    nodup_of_unrepeated (unrepeated_of_mem_object unrepeated (mem_of_member? written))
  rw [filter_nodeOfMembers]
  unfold node
  rcases (decides_requiredString members path "id").cases with
    ⟨id, madeId, acceptsId⟩ | ⟨undecoded, violates⟩
  · rcases (decides_optionalString members path "label").cases with
      ⟨label, madeLabel, acceptsLabel⟩ | ⟨undecoded, violates⟩
    · rcases (decides_optionalString members path "kind").cases with
        ⟨kind, madeKind, acceptsKind⟩ | ⟨undecoded, violates⟩
      · rcases (decides_properties members path distinct).cases with
          ⟨props, madeProps, acceptsProps⟩ | ⟨undecoded, violates⟩
        · rw [madeId, madeLabel, madeKind, madeProps, acceptsId, acceptsLabel, acceptsKind,
            acceptsProps]
          rfl
        · simp [undecoded, Checked.Decides, violates]
      · simp [undecoded, Checked.Decides, violates]
    · simp [undecoded, Checked.Decides, violates]
  · simp [undecoded, Checked.Decides, violates]

/-- Whether both ends of an edge are visible. -/
def visibleEnds (edge : Edge) : Bool :=
  visible edge.source && visible edge.target

/-- An edge with visible ends, part by part. -/
theorem filter_edgeOfMembers (members : Members) :
    (Edge.ofMembers members).filter visibleEnds = do
      let source ← visibleString? members "source"
      let target ← visibleString? members "target"
      let label ← string? members "label"
      let kind ← string? members "kind"
      return { source, target, label, kind } := by
  unfold Edge.ofMembers visibleString? string?
  cases memberOf (Value.option? Value.text?) members "label" with
  | none => simp
  | some label =>
  cases memberOf (Value.option? Value.text?) members "kind" with
  | none => simp
  | some kind =>
  rcases memberOf Value.text? members "source" with _ | _ | s
  · rfl
  · rcases memberOf Value.text? members "target" with _ | _ <;> rfl
  · rcases memberOf Value.text? members "target" with _ | _ | t
    · simp
    · simp
    · cases source : visible s <;> cases target : visible t <;>
        simp [Option.filter, visibleEnds, source, target]

/-- An edge is an object with visible ends. Where one of its members is refused the edge is, too. -/
theorem decides_edge (members : Members) (path : String) : (edge members path).Decides
    ((Edge.ofMembers members).filter visibleEnds) := by
  rw [filter_edgeOfMembers]
  unfold edge
  rcases (decides_requiredString members path "source").cases with
    ⟨source, madeSource, acceptsSource⟩ | ⟨undecoded, violates⟩
  · rcases (decides_requiredString members path "target").cases with
      ⟨target, madeTarget, acceptsTarget⟩ | ⟨undecoded, violates⟩
    · rcases (decides_optionalString members path "label").cases with
        ⟨label, madeLabel, acceptsLabel⟩ | ⟨undecoded, violates⟩
      · rcases (decides_optionalString members path "kind").cases with
          ⟨kind, madeKind, acceptsKind⟩ | ⟨undecoded, violates⟩
        · rw [madeSource, madeTarget, madeLabel, madeKind, acceptsSource, acceptsTarget,
            acceptsLabel, acceptsKind]
          rfl
        · simp [undecoded, Checked.Decides, violates]
      · simp [undecoded, Checked.Decides, violates]
    · simp [undecoded, Checked.Decides, violates]
  · simp [undecoded, Checked.Decides, violates]

/-- Elements are checked one by one, and each of them must be accepted. -/
theorem decides_mapIdx {make : Value → Option α} {items : List Value}
    {check : Nat → Value → Checked α}
    (decides : ∀ index, ∀ item ∈ items, (check index item).Decides (make item)) :
    (Checked.mk (some ((items.mapIdx check).filterMap Checked.result))
      ((items.mapIdx check).flatMap Checked.violations)).Decides (items.mapM make) := by
  induction items generalizing check with
  | nil => rfl
  | cons item items ih =>
    have first := decides 0 item List.mem_cons_self
    have others := @ih (fun index => check (index + 1)) fun index item mem =>
      decides (index + 1) item (List.mem_cons_of_mem _ mem)
    rw [List.mapM_cons, List.mapIdx_cons]
    cases made : make item with
    | none =>
      rw [made] at first
      simp [Checked.Decides, first.violates]
    | some a =>
      rw [made] at first
      cases rest : items.mapM make with
      | none =>
        rw [rest] at others
        have violates := others.violates
        simp only [Checked.Decides, Option.bind_eq_bind, Option.bind_some, Option.bind_none,
          List.flatMap_cons, ne_eq, List.append_eq_nil_iff, not_and]
        exact fun _ => violates
      | some as =>
        rw [rest] at others
        have accepts := others.accepts
        simp only [Checked.accept, Checked.mk.injEq, Option.some.injEq] at accepts
        simp [Checked.Decides, first.accepts, Checked.accept, accepts.1, accepts.2]

/-- The elements of a name are an array of what each of them must be. -/
theorem decides_elements {make : Members → Option α} {check : Members → String → Checked α}
    (members : Members) (name : String)
    (decides : ∀ items, Value.member? members name = some (.array items) → ∀ entries,
      .object entries ∈ items → ∀ path, (check entries path).Decides (make entries)) :
    (elements check members name).Decides
      (memberOf (Value.list? (Value.object? make)) members name).join := by
  unfold elements memberOf
  cases written : Value.member? members name with
  | none => exact decides_reject _ _
  | some value =>
    cases value with
    | array items =>
      have each : ∀ index, ∀ item ∈ items,
          (object check (elementPath name index) item).Decides (Value.object? make item) := by
        intro index item mem
        cases item with
        | object entries => exact decides items written entries mem _
        | _ => exact decides_reject _ _
      have all := decides_mapIdx each
      simp only [Value.list?]
      cases made : items.mapM (Value.object? make) <;>
        rw [made] at all <;> exact all
    | _ => exact decides_reject _ _

/-! ## Graphs -/

/-- What comes of a member that must be there. -/
theorem join_memberOf_eq_some_iff {decode : Value → Option α} {members : Members} {name : String}
    {a : α} : (memberOf decode members name).join = some a ↔
      ∃ value, Value.member? members name = some value ∧ decode value = some a := by
  unfold memberOf
  cases Value.member? members name with
  | none => simp
  | some value =>
    simp only [Option.some.injEq, exists_eq_left']
    cases decode value <;> rfl

/-- What is asked of each element in addition is asked of each result. -/
theorem mapM_filter_eq_some_iff {β : Type} {decode : β → Option α} {asked : α → Bool}
    {items : List β} {as : List α} :
    items.mapM (fun item => (decode item).filter asked) = some as ↔
      items.mapM decode = some as ∧ ∀ a ∈ as, asked a = true := by
  induction items generalizing as with
  | nil => simp +contextual
  | cons item items ih =>
    simp only [List.mapM_cons, Option.bind_eq_bind, Option.bind_eq_some_iff, Option.pure_def,
      Option.some.injEq, Option.filter_eq_some_iff, ih]
    constructor
    · rintro ⟨a, ⟨head, here⟩, others, ⟨tail, behind⟩, rfl⟩
      exact ⟨⟨a, head, others, tail, rfl⟩, List.forall_mem_cons.mpr ⟨here, behind⟩⟩
    · rintro ⟨⟨a, head, others, tail, rfl⟩, all⟩
      obtain ⟨here, behind⟩ := List.forall_mem_cons.mp all
      exact ⟨a, ⟨head, here⟩, others, ⟨tail, behind⟩, rfl⟩

/-- What is asked in addition of what each element's members make. -/
theorem join_memberOf_filter_eq_some_iff {make : Members → Option α} {asked : α → Bool}
    {members : Members} {name : String} {as : List α} :
    (memberOf (Value.list? (Value.object? fun entries => (make entries).filter asked)) members
        name).join = some as ↔
      (memberOf (Value.list? (Value.object? make)) members name).join = some as ∧
        ∀ a ∈ as, asked a = true := by
  have each : Value.object? (fun entries => (make entries).filter asked) =
      fun value => (Value.object? make value).filter asked := by
    funext value
    cases value <;> rfl
  simp only [join_memberOf_eq_some_iff, each]
  constructor
  · rintro ⟨value, written, made⟩
    cases value with
    | array items =>
      obtain ⟨made, all⟩ := mapM_filter_eq_some_iff.mp made
      exact ⟨⟨_, written, made⟩, all⟩
    | _ => cases made
  · rintro ⟨⟨value, written, made⟩, all⟩
    cases value with
    | array items => exact ⟨_, written, mapM_filter_eq_some_iff.mpr ⟨made, all⟩⟩
    | _ => cases made

/-- The nodes of a graph are an array of objects that make nodes with visible ids. -/
theorem decides_nodes {members : Members} (unrepeated : (Value.object members).unrepeated) :
    (elements node members "nodes").Decides (memberOf (Value.list? (Value.object? fun entries =>
      (Node.ofMembers entries).filter fun node => visible node.id)) members "nodes").join := by
  apply decides_elements
  intro items written entries mem path
  have unrepeatedItems : (Value.array items).unrepeated :=
    unrepeated_of_mem_object unrepeated (mem_of_member? written)
  exact decides_node (unrepeated_of_mem_array unrepeatedItems mem) path

/-- The edges of a graph are an array of objects that make edges with visible ends. -/
theorem decides_edges (members : Members) :
    (elements edge members "edges").Decides (memberOf (Value.list? (Value.object? fun entries =>
      (Edge.ofMembers entries).filter visibleEnds)) members "edges").join :=
  decides_elements members "edges" fun _ _ entries _ path => decides_edge entries path

/-- The members of a graph are its nodes and its edges. -/
theorem ofMembers_eq_some_iff {members : Members} {graph : Graph} :
    Graph.ofMembers members = some graph ↔
      (memberOf (Value.list? (Value.object? Node.ofMembers)) members "nodes").join =
          some graph.nodes ∧
        (memberOf (Value.list? (Value.object? Edge.ofMembers)) members "edges").join =
          some graph.edges := by
  obtain ⟨nodes, edges⟩ := graph
  unfold Graph.ofMembers
  rcases memberOf (Value.list? (Value.object? Node.ofMembers)) members "nodes" with _ | _ | _ <;>
    rcases memberOf (Value.list? (Value.object? Edge.ofMembers)) members "edges" with _ | _ | _ <;>
      simp

/-- Ids that are more than blanks are visible. -/
theorem hasVisibleIds_iff {graph : Graph} : graph.HasVisibleIds ↔
    (∀ node ∈ graph.nodes, visible node.id = true) ∧
      ∀ edge ∈ graph.edges, visibleEnds edge = true := by
  simp only [visible, visibleEnds, Bool.and_eq_true, Bool.not_eq_true']
  exact ⟨fun ids => ⟨ids.nodes, ids.edges⟩, fun ids => ⟨ids.1, ids.2⟩⟩

/-- A graph comes out exactly if its nodes and its edges are accepted. -/
theorem validate_of_decides {members : Members} {nodes? : Option (List Node)}
    {edges? : Option (List Edge)} (nodes : (elements node members "nodes").Decides nodes?)
    (edges : (elements edge members "edges").Decides edges?) {graph : Graph} :
    validate (.object members) = .ok graph ↔
      nodes? = some graph.nodes ∧ edges? = some graph.edges := by
  unfold validate graphMembers
  cases nodes? with
  | none =>
    obtain ⟨violation, others, found⟩ := List.exists_cons_of_ne_nil nodes.violates
    simp [found]
  | some ns =>
    cases edges? with
    | none =>
      obtain ⟨violation, others, found⟩ := List.exists_cons_of_ne_nil edges.violates
      simp [nodes.accepts, Checked.accept, found]
    | some es =>
      obtain ⟨ns', es'⟩ := graph
      simp [nodes.accepts, edges.accepts, Checked.accept]

/-- A graph comes out of the members that make it if its ids are visible, and of no others. -/
theorem validate_object_eq_ok_iff {members : Members}
    (unrepeated : (Value.object members).unrepeated) {graph : Graph} :
    validate (.object members) = .ok graph ↔
      Graph.ofMembers members = some graph ∧ graph.HasVisibleIds := by
  rw [validate_of_decides (decides_nodes unrepeated) (decides_edges members),
    join_memberOf_filter_eq_some_iff, join_memberOf_filter_eq_some_iff, ofMembers_eq_some_iff,
    hasVisibleIds_iff, and_and_and_comm]

/-- Where something is made of every element, every element is an object. -/
theorem kind_of_mem_elements {make : Members → Option α} {members : Members} {name : String}
    {as : List α} (made : (memberOf (Value.list? (Value.object? make)) members name).join = some as)
    {items : List Value} (written : Value.member? members name = some (.array items))
    {item : Value} (mem : item ∈ items) : item.kind = .object := by
  obtain ⟨value, written', all⟩ := join_memberOf_eq_some_iff.mp made
  obtain rfl : .array items = value := Option.some.inj (written.symm.trans written')
  clear written written' made
  simp only [Value.list?] at all
  induction items generalizing as with
  | nil => simp at mem
  | cons first rest ih =>
    simp only [List.mapM_cons, Option.bind_eq_bind, Option.bind_eq_some_iff] at all
    obtain ⟨a, head, others, tail, -⟩ := all
    rcases List.mem_cons.mp mem with rfl | mem
    · cases item with
      | object entries => rfl
      | _ => cases head
    · exact ih mem tail

/-- Where a graph can be made of an object, its elements are objects. -/
theorem elementsAreObjects_of_ofMembers {members : Members} {graph : Graph}
    (made : Graph.ofMembers members = some graph) : ElementsAreObjects members := by
  obtain ⟨nodes, edges⟩ := ofMembers_eq_some_iff.mp made
  intro name named items written item mem
  simp only [List.mem_cons, List.not_mem_nil, or_false] at named
  rcases named with rfl | rfl
  · exact kind_of_mem_elements nodes written mem
  · exact kind_of_mem_elements edges written mem

/-- The schema and the typed reader agree on every text that is an object and repeats no name: the
schema makes the graphs that are decoded of the text, if all elements are objects and no id is
blank. -/
theorem validate_eq_ok_iff {text : List Char} {members : Members}
    (parsed : parse text = .ok (.object members))
    (unrepeated : (Value.object members).unrepeated) (graph : Graph) :
    validate (.object members) = .ok graph ↔
      decodeText Graph.shape.reader text = .ok graph ∧ ElementsAreObjects members ∧
        graph.HasVisibleIds := by
  obtain ⟨outline, made, decoded⟩ := exists_outline_of_parse parsed
  rw [decoded, validate_object_eq_ok_iff unrepeated, ← toOption_eq_some_iff]
  constructor
  · rintro ⟨given, ids⟩
    have objects := elementsAreObjects_of_ofMembers given
    exact ⟨(Graph.reads unrepeated objects _ outline made).trans given, objects, ids⟩
  · rintro ⟨read, objects, ids⟩
    exact ⟨(Graph.reads unrepeated objects _ outline made).symm.trans read, ids⟩

/-- An object with members in another order than the fields', nulls and members that no field asks
for. -/
def scattered : Members :=
  [("edges", .array [.object [("target", .text "b"), ("kind", .null), ("source", .text "a")]]),
    ("note", .array [.ofNat 1, .object [("id", .null)]]),
    ("nodes", .array [.object [("label", .null), ("id", .text "a"),
      ("props", .object [("z", .text ""), ("k", .text "v")]), ("size", .ofNat 2)]])]

/-- The graph that the object stands for. -/
def scatteredGraph : Graph where
  nodes := [{ id := "a", props := some (Dictionary.ofList [("k", "v"), ("z", "")]) }]
  edges := [{ source := "a", target := "b" }]

/-- The graph that the schema makes of the object is decoded of its text as well. -/
theorem validate_scattered :
    parse ((Value.object scattered).indented 0) = .ok (.object scattered) ∧
    (Value.object scattered).unrepeated = true ∧
    validate (.object scattered) = .ok scatteredGraph ∧
    decodeText Graph.shape.reader ((Value.object scattered).indented 0) = .ok scatteredGraph := by
  have parsed : parse ((Value.object scattered).indented 0) = .ok (.object scattered) :=
    parse_indented (by decide +kernel)
  have unrepeated : (Value.object scattered).unrepeated = true := by decide +kernel
  have valid : validate (.object scattered) = .ok scatteredGraph :=
    toOption_eq_some_iff.mp (by decide +kernel)
  exact ⟨parsed, unrepeated, valid, ((validate_eq_ok_iff parsed unrepeated _).mp valid).1⟩

end PromptDiagram.Schema
