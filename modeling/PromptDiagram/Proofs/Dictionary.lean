import PromptDiagram.Dictionary

/-!
# Dictionaries from their entries

Writing the entries of a dictionary one after the other makes the dictionary again, since each
write goes behind the ones before it.
-/

namespace PromptDiagram.Dictionary

variable {α : Type}

/-- A value that is written under a key behind all others goes to the end. -/
theorem place_of_last {key : String} (value : α) {entries : List (String × α)}
    (last : ∀ entry ∈ entries, entry.1 < key) :
    place key value entries = entries ++ [(key, value)] := by
  induction entries with
  | nil => rfl
  | cons entry rest ih =>
    have before := last entry List.mem_cons_self
    rw [place, if_neg (String.lt_asymm before), if_pos before,
      ih fun entry mem => last entry (List.mem_cons_of_mem _ mem), List.cons_append]

/-- Writes under keys that ascend, behind the ones that stand already, are appended. -/
theorem entries_foldl_insert {writes : List (String × α)} {dictionary : Dictionary α}
    (ascending : (dictionary.entries ++ writes).Pairwise fun a b => a.1 < b.1) :
    (writes.foldl (fun dictionary entry => dictionary.insert entry.1 entry.2) dictionary).entries =
      dictionary.entries ++ writes := by
  induction writes generalizing dictionary with
  | nil => simp
  | cons write writes ih =>
    have last : ∀ entry ∈ dictionary.entries, entry.1 < write.1 := fun entry mem =>
      (List.pairwise_append.mp ascending).2.2 entry mem write List.mem_cons_self
    have placed : (dictionary.insert write.1 write.2).entries = dictionary.entries ++ [write] :=
      place_of_last write.2 last
    rw [List.foldl_cons, ih (by simpa [placed] using ascending), placed, List.append_assoc,
      List.singleton_append]

/-- Writes under ascending keys are the entries of the dictionary that they make. -/
theorem entries_ofList {writes : List (String × α)}
    (ascending : writes.Pairwise fun a b => a.1 < b.1) : (ofList writes).entries = writes :=
  entries_foldl_insert (by simpa [empty] using ascending)

/-- Dictionaries with the same entries are the same. -/
theorem eq_of_entries {left right : Dictionary α} (same : left.entries = right.entries) :
    left = right := by
  cases left
  cases right
  cases same
  rfl

/-- A dictionary is made of its entries. -/
theorem ofList_entries (dictionary : Dictionary α) : ofList dictionary.entries = dictionary :=
  eq_of_entries (entries_ofList dictionary.ascending)

/-! ## Look-ups -/

/-- What stands in a dictionary is what is found under its key. -/
theorem mem_entries_iff (dictionary : Dictionary α) (entry : String × α) :
    entry ∈ dictionary.entries ↔ dictionary.get? entry.1 = some entry.2 := by
  constructor
  · intro mem
    obtain ⟨before, behind, parts⟩ := List.append_of_mem mem
    have ascending := parts ▸ dictionary.ascending
    have earlier := (List.pairwise_append.mp ascending).2.2
    refine List.lookup_eq_some_iff.mpr ⟨before, behind, parts, fun other within => ?_⟩
    have less := earlier other within entry List.mem_cons_self
    exact bne_iff_ne.mpr fun same => String.lt_irrefl _ (same ▸ less)
  · intro found
    obtain ⟨before, behind, parts, -⟩ := List.lookup_eq_some_iff.mp found
    simp [parts]

/-- Lists in the same strict order with the same members are the same. -/
theorem eq_of_ordered {γ : Type} {before : γ → γ → Prop}
    (asymm : ∀ {a b}, before a b → ¬before b a) {left right : List γ}
    (ordered : left.Pairwise before) (ordered' : right.Pairwise before)
    (same : ∀ a, a ∈ left ↔ a ∈ right) : left = right := by
  have distinct {list : List γ} (ordered : list.Pairwise before) : list.Nodup := by
    refine ordered.imp fun {a b} less => ?_
    rintro rfl
    exact asymm less less
  have perm : left.Perm right :=
    (List.perm_ext_iff_of_nodup (distinct ordered) (distinct ordered')).mpr same
  exact perm.eq_of_pairwise (fun _ _ _ _ less more => absurd more (asymm less)) ordered ordered'

/-- Dictionaries that find the same under every key are the same. -/
theorem eq_of_get? {left right : Dictionary α} (same : ∀ key, left.get? key = right.get? key) :
    left = right := by
  apply eq_of_entries
  apply eq_of_ordered (fun less => String.lt_asymm less) left.ascending right.ascending
  intro entry
  rw [mem_entries_iff, mem_entries_iff, same]

/-- What is found after writes is the last of those under the key. -/
theorem get?_ofList (writes : List (String × α)) (key : String) :
    (ofList writes).get? key = writes.reverse.lookup key := by
  suffices ∀ dictionary : Dictionary α,
      (writes.foldl (fun dictionary entry => dictionary.insert entry.1 entry.2) dictionary).get?
        key = (writes.reverse.lookup key).or (dictionary.get? key) by
    rw [ofList, this, get?_empty, Option.or_none]
  induction writes with
  | nil => exact fun _ => rfl
  | cons write writes ih =>
    intro dictionary
    rw [List.foldl_cons, ih, get?_insert, List.reverse_cons, List.lookup_append, Option.or_assoc,
      lookup_cons_eq_ite]
    split <;> rfl

/-! ## Writes in any order -/

/-- Writing under a key and then changing every value is writing the changed value. -/
theorem place_map {β : Type} (f : α → β) (key : String) (value : α) (entries : List (String × α)) :
    place key (f value) (entries.map fun entry => (entry.1, f entry.2)) =
      (place key value entries).map fun entry => (entry.1, f entry.2) := by
  induction entries with
  | nil => rfl
  | cons entry rest ih =>
    simp only [List.map_cons, place]
    split
    · rfl
    · split
      · rw [ih]
        rfl
      · rfl

/-- Changed values make the dictionary with changed values. -/
theorem entries_ofList_map {β : Type} (f : α → β) (writes : List (String × α)) :
    (ofList (writes.map fun entry => (entry.1, f entry.2))).entries =
      (ofList writes).entries.map fun entry => (entry.1, f entry.2) := by
  suffices ∀ (dictionary : Dictionary α) (changed : Dictionary β),
      changed.entries = dictionary.entries.map (fun entry => (entry.1, f entry.2)) →
      ((writes.map fun entry => (entry.1, f entry.2)).foldl
        (fun dictionary entry => dictionary.insert entry.1 entry.2) changed).entries =
      (writes.foldl (fun dictionary entry => dictionary.insert entry.1 entry.2)
        dictionary).entries.map fun entry => (entry.1, f entry.2) from this empty empty rfl
  induction writes with
  | nil => exact fun _ _ same => same
  | cons write writes ih =>
    intro dictionary changed same
    refine ih (dictionary.insert write.1 write.2) (changed.insert write.1 (f write.2)) ?_
    show place write.1 (f write.2) changed.entries =
      (place write.1 write.2 dictionary.entries).map _
    rw [same, place_map]

/-- A value stands where it is written. -/
theorem mem_place_self (key : String) (value : α) (entries : List (String × α)) :
    (key, value) ∈ place key value entries := by
  induction entries with
  | nil => simp [place]
  | cons entry rest ih =>
    rw [place]
    split
    · exact List.mem_cons_self
    · split
      · exact List.mem_cons_of_mem _ ih
      · exact List.mem_cons_self

/-- Writing under a key leaves the entries of other keys. -/
theorem mem_place_of_mem {key : String} (value : α) {entries : List (String × α)}
    {entry : String × α} (mem : entry ∈ entries) (other : entry.1 ≠ key) :
    entry ∈ place key value entries := by
  induction entries with
  | nil => simp at mem
  | cons first rest ih =>
    rw [place]
    split
    · exact List.mem_cons_of_mem _ mem
    · rename_i notBefore
      split
      · rcases List.mem_cons.mp mem with rfl | mem
        · exact List.mem_cons_self
        · exact List.mem_cons_of_mem _ (ih mem)
      · rename_i notAfter
        have same : key = first.1 :=
          String.le_antisymm (String.not_lt.mp notAfter) (String.not_lt.mp notBefore)
        rcases List.mem_cons.mp mem with rfl | mem
        · exact absurd same.symm other
        · exact List.mem_cons_of_mem _ mem

/-- Every write under distinct keys stands in the dictionary that is made. -/
theorem mem_entries_ofList {writes : List (String × α)} (distinct : (writes.map Prod.fst).Nodup)
    {entry : String × α} (mem : entry ∈ writes) : entry ∈ (ofList writes).entries := by
  suffices ∀ dictionary : Dictionary α,
      (entry ∈ writes ∨ entry ∈ dictionary.entries ∧ entry.1 ∉ writes.map Prod.fst) →
      entry ∈ (writes.foldl (fun dictionary entry => dictionary.insert entry.1 entry.2)
        dictionary).entries from this empty (.inl mem)
  clear mem
  induction writes with
  | nil => simp
  | cons write writes ih =>
    obtain ⟨fresh, distinct⟩ := List.nodup_cons.mp distinct
    intro dictionary stands
    refine ih distinct (dictionary.insert write.1 write.2) ?_
    rcases stands with mem | ⟨mem, absent⟩
    · rcases List.mem_cons.mp mem with rfl | mem
      · exact .inr ⟨mem_place_self _ _ _, fresh⟩
      · exact .inl mem
    · obtain ⟨other, absent⟩ : entry.1 ≠ write.1 ∧ entry.1 ∉ writes.map Prod.fst := by
        simpa using absent
      exact .inr ⟨mem_place_of_mem _ mem other, absent⟩

end PromptDiagram.Dictionary
