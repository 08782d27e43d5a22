import PromptDiagram.Proofs.Alias.Search

/-!
# The table of aliases

Names are issued one after the other and never twice. What holds after each step is that the names
taken are those of the bare ids and those issued, all different; it holds at the outset and is kept
by every step, so it holds of the finished table. Hence an identifier tells the id that it stands
for.
-/

namespace PromptDiagram

open Text

/-- An id that needs no service leaves the table as it is. -/
theorem assign_of_pass {taken : List String} {served : List (String × String)} {id : String}
    {rest : List String} (pass : isBare id = true ∨ (served.lookup id).isSome = true) :
    assign taken served (id :: rest) = assign taken served rest := by
  rw [assign, if_pos (by simpa using pass)]

/-- An id that needs service takes its first free candidate. -/
theorem assign_of_serve {taken : List String} {served : List (String × String)} {id : String}
    {rest : List String} (needy : isBare id = false) (unserved : served.lookup id = none) :
    assign taken served (id :: rest) =
      assign (firstFree (baseAlias id) taken :: taken)
        (served ++ [(id, firstFree (baseAlias id) taken)]) rest := by
  rw [assign, if_neg (by simp [needy, unserved])]

/-- Whether an id is passed over or served. -/
theorem pass_or_serve (served : List (String × String)) (id : String) :
    (isBare id = true ∨ (served.lookup id).isSome = true) ∨
      isBare id = false ∧ served.lookup id = none := by
  cases bare : isBare id with
  | true => exact .inl (.inl rfl)
  | false =>
    cases served.lookup id with
    | some name => exact .inl (.inr rfl)
    | none => exact .inr ⟨rfl, rfl⟩

/-- Names have been issued in order: the names taken are those held from the outset and those in
the table, and no two of them are the same. -/
structure Issued (held taken : List String) (served : List (String × String)) : Prop where
  taken_eq : taken = (served.map Prod.snd).reverse ++ held
  distinct : taken.Nodup
  needy : ∀ entry ∈ served, isBare entry.1 = false
  bare : ∀ entry ∈ served, isBare entry.2 = true

/-- Issuing the first free candidate of an id that needs one keeps names distinct. -/
theorem Issued.serve {held taken : List String} {served : List (String × String)} {id : String}
    (issued : Issued held taken served) (needy : isBare id = false) :
    Issued held (firstFree (baseAlias id) taken :: taken)
      (served ++ [(id, firstFree (baseAlias id) taken)]) where
  taken_eq := by simp [← issued.taken_eq]
  distinct := List.nodup_cons.mpr ⟨firstFree_not_mem _ _, issued.distinct⟩
  needy := by
    intro entry mem
    rcases List.mem_append.mp mem with mem | mem
    · exact issued.needy entry mem
    · rw [List.mem_singleton.mp mem]
      exact needy
  bare := by
    intro entry mem
    rcases List.mem_append.mp mem with mem | mem
    · exact issued.bare entry mem
    · obtain ⟨n, -, name, -⟩ := firstFree_spec (baseAlias id) taken
      rw [List.mem_singleton.mp mem, name]
      exact isBare_candidate id n

/-- Serving ids keeps names distinct. -/
theorem Issued.assign {held taken : List String} {served : List (String × String)}
    (issued : Issued held taken served) (ids : List String) :
    ∃ taken', Issued held taken' (assign taken served ids) := by
  induction ids generalizing taken served with
  | nil => exact ⟨taken, issued⟩
  | cons id rest ih =>
    rcases pass_or_serve served id with pass | ⟨needy, unserved⟩
    · rw [assign_of_pass pass]
      exact ih issued
    · rw [assign_of_serve needy unserved]
      exact ih (issued.serve needy)

/-- An alias, once issued, stays. -/
theorem lookup_assign {taken : List String} {served : List (String × String)} {id name : String}
    (known : served.lookup id = some name) (ids : List String) :
    (assign taken served ids).lookup id = some name := by
  induction ids generalizing taken served with
  | nil => exact known
  | cons other rest ih =>
    rcases pass_or_serve served other with pass | ⟨needy, unserved⟩
    · rw [assign_of_pass pass]
      exact ih known
    · rw [assign_of_serve needy unserved]
      exact ih (by rw [List.lookup_append, known, Option.some_or])

/-- Every id that needs an alias gets one. -/
theorem exists_lookup_assign (taken : List String) (served : List (String × String))
    {ids : List String} {id : String} (mem : id ∈ ids) (needy : isBare id = false) :
    ∃ name, (assign taken served ids).lookup id = some name := by
  induction ids generalizing taken served with
  | nil => exact absurd mem List.not_mem_nil
  | cons other rest ih =>
    rcases pass_or_serve served other with pass | ⟨needy', unserved⟩
    · rw [assign_of_pass pass]
      rcases List.mem_cons.mp mem with rfl | mem
      · obtain ⟨name, known⟩ := Option.isSome_iff_exists.mp (pass.resolve_left (by simp [needy]))
        exact ⟨name, lookup_assign known rest⟩
      · exact ih taken served mem
    · rw [assign_of_serve needy' unserved]
      rcases List.mem_cons.mp mem with rfl | mem
      · have known : (served ++ [(id, firstFree (baseAlias id) taken)]).lookup id =
            some (firstFree (baseAlias id) taken) := by
          rw [List.lookup_append, unserved, Option.none_or, List.lookup_cons_self]
        exact ⟨_, lookup_assign known rest⟩
      · exact ih _ _ mem

/-! ## Names without repetitions -/

/-- No name is left twice. -/
theorem nodup_eraseDups (names : List String) : names.eraseDups.Nodup := by
  induction count : names.length using Nat.strongRecOn generalizing names with
  | ind n ih =>
    cases names with
    | nil => exact List.nodup_nil
    | cons name rest =>
      rw [List.eraseDups_cons]
      refine List.nodup_cons.mpr ⟨by simp [List.mem_eraseDups], ih _ ?_ _ rfl⟩
      have shorter := List.length_filter_le (fun other => !other == name) rest
      rw [← count, List.length_cons]
      omega

/-- Names that have all appeared before add none. -/
theorem eraseDups_append_of_subset {names more : List String} (known : more ⊆ names) :
    (names ++ more).eraseDups = names.eraseDups := by
  have nothingNew : more.removeAll names = [] :=
    List.filter_eq_nil_iff.mpr fun name mem => by simpa using known mem
  rw [List.eraseDups_append, nothingNew, List.eraseDups_nil, List.append_nil]

/-- A name that has not appeared before comes behind the others. -/
theorem eraseDups_append_of_not_mem {names : List String} {name : String} (new : name ∉ names)
    (more : List String) : (names ++ name :: more).eraseDups = names.eraseDups ++
      name :: ((more.removeAll names).filter fun other => !other == name).eraseDups := by
  have kept : (name :: more).removeAll names = name :: more.removeAll names := by
    rw [List.cons_removeAll, if_pos (by simpa using new)]
  rw [List.eraseDups_append, kept, List.eraseDups_cons]

/-! ## Identifiers -/

namespace Graph

/-- Ids are served whether they are nodes' or ends of edges. -/
theorem mem_servingOrder_iff (graph : Graph) (id : String) :
    id ∈ graph.servingOrder ↔ id ∈ graph.ids := by
  simp [servingOrder, ids, distinctEndpoints, List.mem_eraseDups]

/-- The bare ids of a graph hold their names from the outset. -/
theorem mem_bareIds_iff (graph : Graph) (id : String) :
    id ∈ graph.bareIds ↔ id ∈ graph.ids ∧ isBare id = true := by
  simp [bareIds, List.mem_eraseDups, mem_servingOrder_iff]

/-- At the outset the names of the bare ids are held and none has been issued. -/
theorem issued_outset (graph : Graph) : Issued graph.bareIds graph.bareIds [] :=
  ⟨by simp, nodup_eraseDups _, by simp, by simp⟩

/-- The names in the finished table have been issued in order. -/
theorem issued_aliases (graph : Graph) :
    ∃ taken, Issued graph.bareIds taken graph.aliases := by
  rw [aliases]
  exact graph.issued_outset.assign graph.servingOrder

/-- An id that can stand for itself does. -/
theorem identifier_of_isBare (graph : Graph) {id : String} (bare : isBare id = true) :
    graph.identifier id = id := by
  obtain ⟨taken, issued⟩ := graph.issued_aliases
  have unserved : graph.aliases.lookup id = none := by
    apply List.lookup_eq_none_iff.mpr
    intro entry mem
    apply bne_iff_ne.mpr
    rintro rfl
    simp [issued.needy entry mem] at bare
  rw [identifier, nameIn, unserved, Option.getD_none]

/-- Every other id of the graph stands under its entry in the table. -/
theorem mem_aliases_of_needy (graph : Graph) {id : String} (mem : id ∈ graph.ids)
    (needy : isBare id = false) : (id, graph.identifier id) ∈ graph.aliases := by
  obtain ⟨name, known⟩ := exists_lookup_assign graph.bareIds []
    ((graph.mem_servingOrder_iff id).mpr mem) needy
  have same : graph.identifier id = name := by
    rw [identifier, nameIn, aliases, known, Option.getD_some]
  obtain ⟨before, behind, parts, -⟩ := List.lookup_eq_some_iff.mp known
  rw [same, aliases, parts]
  simp

/-- The identifier of every id of the graph can stand for an id. -/
theorem isBare_identifier (graph : Graph) {id : String} (mem : id ∈ graph.ids) :
    isBare (graph.identifier id) = true := by
  cases bare : isBare id with
  | true => rw [graph.identifier_of_isBare bare, bare]
  | false =>
    obtain ⟨taken, issued⟩ := graph.issued_aliases
    exact issued.bare (id, graph.identifier id) (graph.mem_aliases_of_needy mem bare)

end Graph
end PromptDiagram
