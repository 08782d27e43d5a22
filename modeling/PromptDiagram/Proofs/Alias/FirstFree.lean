import Mathlib.Data.List.Nodup
import PromptDiagram.Proofs.Alias.Table

/-!
# The first free name

Ids are served in order of first use. When the turn of an id comes, the names that are held are the
bare ids of the whole graph and the aliases of the ids before it, and the id takes the first of its
candidates that is not among them. Every name that is held stands for another id of the graph, so
no search tests more candidates than the graph has different ids.

The service is followed state by state: a reached state says which names are taken, which aliases
have been issued and which ids are still to come. What has been issued is known in closed form, and
all else is read off that form.
-/

namespace PromptDiagram

/-! ## Names in order of first use -/

/-- Up to a name, it makes no difference whether repetitions are left out first or last. -/
theorem takeWhile_eraseDups (names : List String) (name : String) :
    names.eraseDups.takeWhile (· != name) = (names.takeWhile (· != name)).eraseDups := by
  by_cases mem : name ∈ names
  · -- The name stays where it is first used, behind what is left of the names before it.
    obtain ⟨front, back, rfl, new⟩ := List.eq_append_cons_of_mem mem
    have others : ∀ other ∈ front, (other != name) = true := fun other inFront =>
      bne_iff_ne.mpr fun same => new (same ▸ inFront)
    have others' : ∀ other ∈ front.eraseDups, (other != name) = true := fun other inFront =>
      others other (List.mem_eraseDups.mp inFront)
    rw [eraseDups_append_of_not_mem new, List.takeWhile_append_of_pos others',
      List.takeWhile_append_of_pos others]
    simp
  · have others : ∀ other ∈ names, (other != name) = true := fun other inNames =>
      bne_iff_ne.mpr fun same => mem (same ▸ inNames)
    have others' : ∀ other ∈ names.eraseDups, (other != name) = true := fun other inNames =>
      others other (List.mem_eraseDups.mp inNames)
    rw [List.takeWhile_eq_self_iff.mpr others, List.takeWhile_eq_self_iff.mpr others']

/-- The ids of a list that need an alias, each once, in order of first use. -/
def needyAmong (ids : List String) : List String :=
  (ids.filter fun id => !isBare id).eraseDups

/-- The ids of a list that need an alias are those of its ids that are not bare. -/
theorem mem_needyAmong_iff {ids : List String} {id : String} :
    id ∈ needyAmong ids ↔ id ∈ ids ∧ isBare id = false := by
  simp [needyAmong]

/-- An id that is bare or known already adds nothing. -/
theorem needyAmong_append_of_pass {ids : List String} {id : String}
    (pass : isBare id = true ∨ id ∈ needyAmong ids) :
    needyAmong (ids ++ [id]) = needyAmong ids := by
  rw [needyAmong, List.filter_append]
  apply eraseDups_append_of_subset
  intro other mem
  obtain ⟨single, needy⟩ := List.mem_filter.mp mem
  obtain rfl : other = id := List.mem_singleton.mp single
  exact List.mem_eraseDups.mp (pass.resolve_left (by simpa using needy))

/-- A new id that needs an alias comes last. -/
theorem needyAmong_append_of_serve {ids : List String} {id : String} (needy : isBare id = false)
    (new : id ∉ needyAmong ids) : needyAmong (ids ++ [id]) = needyAmong ids ++ [id] := by
  have kept : [id].filter (fun id => !isBare id) = [id] := by simp [needy]
  have absent : id ∉ ids.filter fun id => !isBare id := fun mem =>
    new (List.mem_eraseDups.mpr mem)
  rw [needyAmong, List.filter_append, kept, eraseDups_append_of_not_mem absent]
  rfl

namespace Graph

variable {graph : Graph} {id name : String} {served : List (String × String)}
  {taken waiting rest : List String}

/-! ## States of the service -/

/-- The states that the service of a graph's ids comes through: the names that are taken, the
aliases that have been issued and the ids that are still to come. -/
inductive Reaches (graph : Graph) :
    List String → List (String × String) → List String → Prop
  | outset : Reaches graph graph.bareIds [] graph.servingOrder
  | pass {taken : List String} {served : List (String × String)} {id : String}
      {rest : List String} : Reaches graph taken served (id :: rest) →
      isBare id = true ∨ (served.lookup id).isSome = true → Reaches graph taken served rest
  | serve {taken : List String} {served : List (String × String)} {id : String}
      {rest : List String} {n : Nat} : Reaches graph taken served (id :: rest) →
      isBare id = false → served.lookup id = none → Searches (baseAlias id) taken 0 n →
      Reaches graph (candidate (baseAlias id) n :: taken)
        (served ++ [(id, candidate (baseAlias id) n)]) rest

/-- From every state the service goes on to the finished table. -/
theorem Reaches.assign_eq (reached : graph.Reaches taken served waiting) :
    assign taken served waiting = graph.aliases := by
  induction reached with
  | outset => rfl
  | pass _ pass ih => rw [← ih, assign_of_pass pass]
  | serve _ needy unserved search ih =>
    rw [← ih, assign_of_serve needy unserved, search.firstFree_eq]

/-- In every state the names taken are those of the bare ids and those issued. -/
theorem Reaches.issued (reached : graph.Reaches taken served waiting) :
    Issued graph.bareIds taken served := by
  induction reached with
  | outset => exact graph.issued_outset
  | pass _ _ ih => exact ih
  | serve _ needy _ search ih => exact search.firstFree_eq ▸ ih.serve needy

/-- What has been issued is the identifier of its id. -/
theorem Reaches.identifier_eq (reached : graph.Reaches taken served waiting)
    (known : served.lookup id = some name) : graph.identifier id = name := by
  have listed : graph.aliases.lookup id = some name :=
    reached.assign_eq ▸ lookup_assign known waiting
  rw [identifier, nameIn, listed, Option.getD_some]

/-- An id takes the candidate at which its search stops. -/
theorem Reaches.identifier_of_search {n : Nat} (reached : graph.Reaches taken served (id :: rest))
    (needy : isBare id = false) (unserved : served.lookup id = none)
    (search : Searches (baseAlias id) taken 0 n) :
    graph.identifier id = candidate (baseAlias id) n := by
  apply (Reaches.serve reached needy unserved search).identifier_eq
  rw [List.lookup_append, unserved, Option.none_or, List.lookup_cons_self]

/-- The table of the ids that need an alias among others. -/
def tableOf (graph : Graph) (ids : List String) : List (String × String) :=
  (needyAmong ids).map fun id => (id, graph.identifier id)

/-- The table has no entry for an id exactly if the id is not among those that need an alias. -/
theorem lookup_tableOf_eq_none_iff {ids : List String} :
    (graph.tableOf ids).lookup id = none ↔ id ∉ needyAmong ids := by
  simp only [tableOf, List.lookup_eq_none_iff, List.forall_mem_map, bne_iff_ne]
  exact ⟨fun others mem => others id mem rfl, fun new other mem same => new (same ▸ mem)⟩

/-- In every state the table is that of the ids that have had their turn. -/
theorem Reaches.served_eq (reached : graph.Reaches taken served waiting) :
    ∃ before, graph.servingOrder = before ++ waiting ∧ served = graph.tableOf before := by
  induction reached with
  | outset => exact ⟨[], rfl, rfl⟩
  | @pass taken served id rest _ pass ih =>
    obtain ⟨before, order, rfl⟩ := ih
    refine ⟨before ++ [id], by simpa using order, ?_⟩
    have known : isBare id = true ∨ id ∈ needyAmong before := pass.imp_right fun known => by
      by_contra new
      simp [lookup_tableOf_eq_none_iff.mpr new] at known
    rw [tableOf, tableOf, needyAmong_append_of_pass known]
  | @serve taken served id rest n reached needy unserved search ih =>
    -- The closed form speaks of the finished table, which the alias issued here is part of.
    have identified := reached.identifier_of_search needy unserved search
    obtain ⟨before, order, rfl⟩ := ih
    refine ⟨before ++ [id], by simpa using order, ?_⟩
    have new := lookup_tableOf_eq_none_iff.mp unserved
    simp only [tableOf, needyAmong_append_of_serve needy new, List.map_append, List.map_cons,
      List.map_nil, identified]

/-- The service comes to the turn of every id. -/
theorem exists_reaches (graph : Graph) (before rest : List String)
    (order : graph.servingOrder = before ++ rest) :
    ∃ taken served, graph.Reaches taken served rest := by
  induction before using List.reverseRecOn generalizing rest with
  | nil => exact ⟨_, _, order ▸ Reaches.outset⟩
  | append_singleton before id ih =>
    obtain ⟨taken, served, reached⟩ := ih (id :: rest) (by simpa using order)
    rcases pass_or_serve served id with pass | ⟨needy, unserved⟩
    · exact ⟨_, _, reached.pass pass⟩
    · obtain ⟨n, -, search, -⟩ := exists_searches (baseAlias id) taken
      exact ⟨_, _, reached.serve needy unserved search⟩

/-- Whether a search for the alias of an id is opened while certain names are taken. -/
def Opens (graph : Graph) (id : String) (taken : List String) : Prop :=
  isBare id = false ∧ ∃ served rest,
    graph.Reaches taken served (id :: rest) ∧ served.lookup id = none

/-- A search is opened for every id that needs an alias. -/
theorem exists_opens (mem : id ∈ graph.ids) (needy : isBare id = false) :
    ∃ taken, graph.Opens id taken := by
  obtain ⟨before, rest, order, new⟩ :=
    List.eq_append_cons_of_mem ((graph.mem_servingOrder_iff id).mpr mem)
  obtain ⟨taken, served, reached⟩ := graph.exists_reaches before (id :: rest) order
  refine ⟨taken, needy, served, rest, reached, ?_⟩
  obtain ⟨before', order', rfl⟩ := reached.served_eq
  obtain rfl : before = before' := List.append_cancel_right (order.symm.trans order')
  exact lookup_tableOf_eq_none_iff.mpr fun known => new (mem_needyAmong_iff.mp known).1

/-- The id takes the candidate at which the search stops. -/
theorem Opens.identifier_eq (opens : graph.Opens id taken) {n : Nat}
    (search : Searches (baseAlias id) taken 0 n) :
    graph.identifier id = candidate (baseAlias id) n := by
  obtain ⟨needy, served, rest, reached, unserved⟩ := opens
  exact reached.identifier_of_search needy unserved search

/-- No name is taken twice. -/
theorem Opens.nodup (opens : graph.Opens id taken) : taken.Nodup := by
  obtain ⟨-, served, rest, reached, -⟩ := opens
  exact reached.issued.distinct

/-! ## Whose names are held -/

/-- The different ids of a graph, in order of first use. -/
def distinctIds (graph : Graph) : List String :=
  graph.ids.eraseDups

/-- The ids that come into use before another one. -/
def idsBefore (graph : Graph) (id : String) : List String :=
  graph.ids.takeWhile (· != id)

/-- Whether a name is held when the turn of an id comes: it is a bare id, wherever that one stands
in the graph, or the alias of an id that comes into use before. -/
def IsHeldBefore (graph : Graph) (id name : String) : Prop :=
  (name ∈ graph.ids ∧ isBare name = true) ∨
    ∃ other ∈ graph.idsBefore id, isBare other = false ∧ graph.identifier other = name

/-- Ids come into use in the order in which they are served. -/
theorem mem_idsBefore_iff {other : String} :
    other ∈ graph.idsBefore id ↔ other ∈ graph.servingOrder.takeWhile (· != id) := by
  -- Only the ends of edges differ: they are served without repetitions.
  rw [idsBefore, ids, servingOrder, distinctEndpoints, List.takeWhile_append,
    List.takeWhile_append, takeWhile_eraseDups]
  split <;> simp

/-- The names taken are those that are held when the turn of the id comes. -/
theorem Opens.mem_taken_iff (opens : graph.Opens id taken) :
    name ∈ taken ↔ graph.IsHeldBefore id name := by
  obtain ⟨needy, served, rest, reached, unserved⟩ := opens
  obtain ⟨before, order, rfl⟩ := reached.served_eq
  have new : ∀ other ∈ before, (other != id) = true := fun other mem => bne_iff_ne.mpr fun same =>
    lookup_tableOf_eq_none_iff.mp unserved (mem_needyAmong_iff.mpr ⟨same ▸ mem, needy⟩)
  have turn : graph.servingOrder.takeWhile (· != id) = before := by
    rw [order, List.takeWhile_append_of_pos new, List.takeWhile_cons_of_neg (by simp),
      List.append_nil]
  rw [reached.issued.taken_eq]
  simp only [IsHeldBefore, mem_idsBefore_iff, turn, List.mem_append, List.mem_reverse, tableOf,
    List.map_map, List.mem_map, Function.comp_apply, mem_needyAmong_iff, mem_bareIds_iff, and_assoc]
  exact Or.comm

/-- A search stops at the first candidate that is not held. -/
theorem Opens.searches_iff (opens : graph.Opens id taken) {n : Nat} :
    Searches (baseAlias id) taken 0 n ↔
      ¬ graph.IsHeldBefore id (candidate (baseAlias id) n) ∧
      ∀ m < n, graph.IsHeldBefore id (candidate (baseAlias id) m) := by
  simp only [PromptDiagram.searches_iff, opens.mem_taken_iff]

/-- Fewer names are taken than there are ids: each is the identifier of another id. -/
theorem Opens.length_taken_lt (opens : graph.Opens id taken) (mem : id ∈ graph.ids) :
    taken.length < graph.distinctIds.length := by
  -- The id's own name comes on top of those taken, and all are identifiers of the graph's ids.
  obtain ⟨n, -, search, -⟩ := exists_searches (baseAlias id) taken
  have free : graph.identifier id ∉ taken := opens.identifier_eq search ▸ search.fails_before.1
  have nodup : (graph.identifier id :: taken).Nodup := List.nodup_cons.mpr ⟨free, opens.nodup⟩
  have within : graph.identifier id :: taken ⊆ graph.distinctIds.map graph.identifier := by
    have identified : ∀ other ∈ graph.ids,
        graph.identifier other ∈ graph.distinctIds.map graph.identifier := fun other known =>
      List.mem_map_of_mem (List.mem_eraseDups.mpr known)
    refine List.cons_subset.mpr ⟨identified id mem, fun name isTaken => ?_⟩
    rcases opens.mem_taken_iff.mp isTaken with ⟨known, bare⟩ | ⟨other, before, -, rfl⟩
    · exact graph.identifier_of_isBare bare ▸ identified name known
    · exact identified other ((List.takeWhile_prefix _).subset before)
  have count := nodup.length_le_of_subset within
  rwa [List.length_cons, List.length_map, Nat.succ_le_iff] at count

end Graph

/-- The search for an alias comes to an end and finds the least one. An id that needs an alias has
the first of its candidates that is neither a bare id of the graph nor the alias of an id before it.
A search for it is opened, and each that is opened stops at this candidate and nowhere else. The
candidates that it tests are those up to this one, no more than the graph has different ids. -/
theorem identifiers_are_first_free (graph : Graph) {id : String} (mem : id ∈ graph.ids)
    (needy : isBare id = false) :
    ∃ n, graph.identifier id = candidate (baseAlias id) n ∧
      ¬ graph.IsHeldBefore id (candidate (baseAlias id) n) ∧
      (∀ m < n, graph.IsHeldBefore id (candidate (baseAlias id) m)) ∧
      (∃ taken, graph.Opens id taken) ∧
      (∀ taken, graph.Opens id taken → ∀ m, Searches (baseAlias id) taken 0 m ↔ m = n) ∧
      n + 1 ≤ graph.distinctIds.length := by
  obtain ⟨taken, opens⟩ := Graph.exists_opens mem needy
  obtain ⟨n, failures, search, -⟩ := exists_searches (baseAlias id) taken
  have fewer : taken.length < graph.distinctIds.length := opens.length_taken_lt mem
  obtain ⟨free, before⟩ := opens.searches_iff.mp search
  refine ⟨n, opens.identifier_eq search, free, before, ⟨taken, opens⟩, fun taken' opens' m => ?_,
    by omega⟩
  have search' : Searches (baseAlias id) taken' 0 n := opens'.searches_iff.mpr ⟨free, before⟩
  exact ⟨fun other => other.unique search', fun same => same ▸ search'⟩

/-- A graph in which every name that an id asks for first is held: by a bare id, by the alias of an
id with another base, and by a bare id that only an edge names. -/
def crowded : Graph where
  nodes := [{ id := "a b 2" }, { id := "a_b" }, { id := "a-b" }]
  edges := [{ source := "a-b", target := "a_b_3" }]

/-- The fourth candidate is the first that is free, and the graph has four ids. -/
theorem identifiers_are_first_free_crowded :
    "a-b" ∈ crowded.ids ∧ isBare "a-b" = false ∧ crowded.identifier "a-b" = "a_b_4" ∧
    ¬ crowded.IsHeldBefore "a-b" "a_b_4" ∧
    (∀ m < 3, crowded.IsHeldBefore "a-b" (candidate "a_b" m)) ∧
    (∀ taken, crowded.Opens "a-b" taken → ∀ m, Searches "a_b" taken 0 m ↔ m = 3) ∧
    crowded.distinctIds.length = 3 + 1 := by
  have mem : "a-b" ∈ crowded.ids := by decide
  have needy : isBare "a-b" = false := by decide
  have known : crowded.identifier "a-b" = "a_b_4" := by decide +kernel
  have base : baseAlias "a-b" = "a_b" := by decide +kernel
  have last : candidate "a_b" 3 = "a_b_4" := by decide +kernel
  obtain ⟨n, name, free, before, -, stops, -⟩ := identifiers_are_first_free crowded mem needy
  rw [base] at name free before stops
  obtain rfl : n = 3 := candidate_injective (name.symm.trans (known.trans last.symm))
  exact ⟨mem, needy, known, last ▸ free, before, stops, by decide +kernel⟩

end PromptDiagram
