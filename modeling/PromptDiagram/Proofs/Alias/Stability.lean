import PromptDiagram.Proofs.Alias.Table

/-!
# Identifiers under more edges

Ids are served in order of first use, so edges that are added behind the others are served last:
the table of aliases is only continued. What could disturb it is a name that is held from the
outset, and only an id that is a bare word holds one. Where the edges bring no such id that is new,
every id of the graph keeps its identifier.
-/

namespace PromptDiagram

/-! ## Continuing the table -/

/-- Serving ids only continues a table. -/
theorem prefix_assign (taken : List String) (served : List (String × String)) (ids : List String) :
    served <+: assign taken served ids := by
  induction ids generalizing taken served with
  | nil => exact List.prefix_rfl
  | cons id rest ih =>
    rcases pass_or_serve served id with pass | ⟨needy, unserved⟩
    · rw [assign_of_pass pass]
      exact ih taken served
    · rw [assign_of_serve needy unserved]
      exact (List.prefix_append served _).trans (ih _ _)

/-- Ids that are served behind others are served with the table of these. -/
theorem exists_assign_append (taken : List String) (served : List (String × String))
    (ids more : List String) :
    ∃ taken', assign taken served (ids ++ more) = assign taken' (assign taken served ids) more := by
  induction ids generalizing taken served with
  | nil => exact ⟨taken, rfl⟩
  | cons id rest ih =>
    rw [List.cons_append]
    rcases pass_or_serve served id with pass | ⟨needy, unserved⟩
    · rw [assign_of_pass pass, assign_of_pass pass]
      exact ih taken served
    · rw [assign_of_serve needy unserved, assign_of_serve needy unserved]
      exact ih _ _

/-- Serving more ids continues the table of the first ones. -/
theorem assign_prefix_append (taken : List String) (served : List (String × String))
    (ids more : List String) : assign taken served ids <+: assign taken served (ids ++ more) := by
  obtain ⟨taken', continued⟩ := exists_assign_append taken served ids more
  rw [continued]
  exact prefix_assign taken' _ more

/-! ## Adding edges -/

namespace Graph

variable {graph : Graph} {more : List Edge}

/-- A graph with more edges behind its own. -/
def withEdges (graph : Graph) (more : List Edge) : Graph :=
  { graph with edges := graph.edges ++ more }

/-- Whether edges bring no new id that is a bare word. -/
def SettlesEnds (graph : Graph) (more : List Edge) : Prop :=
  ∀ edge ∈ more, ∀ id ∈ [edge.source, edge.target], isBare id = true → id ∈ graph.ids

/-- The ends of more edges are served behind all other ids. -/
theorem exists_servingOrder_withEdges (graph : Graph) (more : List Edge) :
    ∃ ends, (graph.withEdges more).servingOrder = graph.servingOrder ++ ends ∧
      ∀ id ∈ ends, ∃ edge ∈ more, id ∈ [edge.source, edge.target] := by
  let ends := more.flatMap fun edge => [edge.source, edge.target]
  refine ⟨(ends.removeAll graph.endpoints).eraseDups, ?_, fun id mem => ?_⟩
  · have distinct : (graph.withEdges more).distinctEndpoints =
        graph.distinctEndpoints ++ (ends.removeAll graph.endpoints).eraseDups := by
      simp only [distinctEndpoints, endpoints, withEdges, List.flatMap_append,
        List.eraseDups_append, ends]
    rw [servingOrder, distinct, ← List.append_assoc]
    rfl
  · have inEnds : id ∈ ends := List.mem_of_mem_filter (List.mem_eraseDups.mp mem)
    exact List.mem_flatMap.mp inEnds

/-- The names that are held from the outset stay the same. -/
theorem bareIds_withEdges (settled : graph.SettlesEnds more) :
    (graph.withEdges more).bareIds = graph.bareIds := by
  obtain ⟨ends, order, fromMore⟩ := graph.exists_servingOrder_withEdges more
  rw [bareIds, bareIds, order, List.filter_append]
  apply eraseDups_append_of_subset
  intro id mem
  obtain ⟨inEnds, bare⟩ := List.mem_filter.mp mem
  obtain ⟨edge, added, isEnd⟩ := fromMore id inEnds
  have known := settled edge added id isEnd bare
  exact List.mem_filter.mpr ⟨(graph.mem_servingOrder_iff id).mpr known, bare⟩

/-- The table of aliases is only continued. -/
theorem aliases_prefix_withEdges (settled : graph.SettlesEnds more) :
    graph.aliases <+: (graph.withEdges more).aliases := by
  obtain ⟨ends, order, -⟩ := graph.exists_servingOrder_withEdges more
  rw [aliases, aliases, bareIds_withEdges settled, order]
  exact assign_prefix_append _ _ _ _

/-- An id of the graph keeps its identifier. -/
theorem identifier_withEdges (settled : graph.SettlesEnds more) {id : String}
    (mem : id ∈ graph.ids) : (graph.withEdges more).identifier id = graph.identifier id := by
  cases bare : isBare id with
  | true => rw [identifier_of_isBare _ bare, identifier_of_isBare _ bare]
  | false =>
    obtain ⟨name, known⟩ := exists_lookup_assign graph.bareIds []
      ((graph.mem_servingOrder_iff id).mpr mem) bare
    have known : graph.aliases.lookup id = some name := known
    obtain ⟨others, continued⟩ := aliases_prefix_withEdges settled
    rw [identifier, identifier, nameIn, nameIn, ← continued, List.lookup_append, known,
      Option.some_or]

/-- Edges that the graph has bring no new id. -/
theorem settlesEnds_of_subset (repeated : more ⊆ graph.edges) : graph.SettlesEnds more := by
  intro edge added id isEnd _
  refine mem_ids_iff.mpr (.inr ⟨edge, repeated added, ?_⟩)
  simpa [eq_comm] using isEnd

end Graph

/-- Edges that bring no new bare word change no identifier: every id of the graph keeps its own, and
the table of aliases is only continued. So nothing is renamed by repeating edges, nor by edges whose
new ends all need an alias. -/
theorem identifiers_outlast_edges (graph : Graph) (more : List Edge) :
    (graph.SettlesEnds more →
      graph.aliases <+: (graph.withEdges more).aliases ∧
      ∀ id ∈ graph.ids, (graph.withEdges more).identifier id = graph.identifier id) ∧
    (more ⊆ graph.edges →
      ∀ id ∈ graph.ids, (graph.withEdges more).identifier id = graph.identifier id) ∧
    ((∀ edge ∈ more, ∀ id ∈ [edge.source, edge.target], id ∈ graph.ids ∨ isBare id = false) →
      ∀ id ∈ graph.ids, (graph.withEdges more).identifier id = graph.identifier id) := by
  refine ⟨fun settled => ⟨Graph.aliases_prefix_withEdges settled, fun id mem => ?_⟩,
    fun repeated id mem => ?_, fun needy id mem => ?_⟩
  · exact Graph.identifier_withEdges settled mem
  · exact Graph.identifier_withEdges (Graph.settlesEnds_of_subset repeated) mem
  · refine Graph.identifier_withEdges (fun edge added endpoint isEnd bare => ?_) mem
    exact (needy edge added endpoint isEnd).resolve_right (by simp [bare])

/-- Two ids that ask for the same name, in a graph where a bare word holds it. -/
def rivals : Graph where
  nodes := [{ id := "a_b" }, { id := "a b" }]
  edges := [{ source := "a-b", target := "a_b" }]

/-- An edge from a third rival, and an edge that the graph has. -/
def moreRivals : List Edge :=
  [{ source := "a.b", target := "a_b" }, { source := "a-b", target := "a_b" }]

/-- The third rival takes a name that nobody holds, and the others keep theirs. -/
theorem identifiers_outlast_rivals :
    rivals.SettlesEnds moreRivals ∧ "a b" ∈ rivals.ids ∧ "a-b" ∈ rivals.ids ∧
    rivals.identifier "a-b" = "a_b_3" ∧
    (rivals.withEdges moreRivals).identifier "a b" = rivals.identifier "a b" ∧
    (rivals.withEdges moreRivals).identifier "a-b" = rivals.identifier "a-b" := by
  have settled : rivals.SettlesEnds moreRivals := by
    simp only [Graph.SettlesEnds, moreRivals, List.forall_mem_cons]
    decide
  have first : "a b" ∈ rivals.ids := by decide
  have second : "a-b" ∈ rivals.ids := by decide
  obtain ⟨-, kept⟩ := (identifiers_outlast_edges rivals moreRivals).1 settled
  exact ⟨settled, first, second, by decide +kernel, kept _ first, kept _ second⟩

end PromptDiagram
