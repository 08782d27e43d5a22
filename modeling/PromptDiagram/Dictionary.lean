/-!
# Dictionaries

A dictionary keeps its entries in strictly ascending order of their keys, so it has one entry a
key and equal dictionaries have equal entries. Writing under a key replaces the value that stood
there. The main statements say that writing keeps the order and how it shows in look-ups.
-/

namespace PromptDiagram

/-- Entries whose keys ascend. -/
structure Dictionary (α : Type) where
  entries : List (String × α)
  ascending : entries.Pairwise fun a b => a.1 < b.1
  deriving DecidableEq

namespace Dictionary

variable {α : Type}

/-- The list with a value written under a key, at the place that the key's order gives it. -/
def place (key : String) (value : α) : List (String × α) → List (String × α)
  | [] => [(key, value)]
  | entry :: rest =>
    if key < entry.1 then (key, value) :: entry :: rest
    else if entry.1 < key then entry :: place key value rest
    else (key, value) :: rest

/-- Every key after a write is the written key or stood there before. -/
theorem key_of_mem_place {key : String} {value : α} {entries : List (String × α)}
    {entry : String × α} (h : entry ∈ place key value entries) :
    entry.1 = key ∨ entry ∈ entries := by
  induction entries with
  | nil => simp_all [place]
  | cons first rest ih =>
    unfold place at h
    split at h
    · simp only [List.mem_cons] at h ⊢
      rcases h with h | h | h <;> simp_all
    · split at h
      · simp only [List.mem_cons] at h ⊢
        rcases h with h | h
        · exact .inr (.inl h)
        · exact (ih h).imp id .inr
      · simp only [List.mem_cons] at h ⊢
        rcases h with h | h <;> simp_all

/-- Writing keeps the keys in ascending order. -/
theorem ascending_place (key : String) (value : α) {entries : List (String × α)}
    (h : entries.Pairwise fun a b => a.1 < b.1) :
    (place key value entries).Pairwise fun a b => a.1 < b.1 := by
  induction entries with
  | nil => simp [place]
  | cons first rest ih =>
    have hrest := (List.pairwise_cons.1 h).1
    unfold place
    split
    · rename_i before
      refine List.pairwise_cons.2 ⟨?_, h⟩
      intro entry mem
      rcases List.mem_cons.1 mem with rfl | mem
      · exact before
      · exact String.lt_trans before (hrest entry mem)
    · split
      · rename_i after
        refine List.pairwise_cons.2 ⟨?_, ih (List.pairwise_cons.1 h).2⟩
        intro entry mem
        rcases key_of_mem_place mem with same | mem
        · simpa [same] using after
        · exact hrest entry mem
      · rename_i before after
        have same : key = first.1 :=
          String.le_antisymm (String.not_lt.1 after) (String.not_lt.1 before)
        refine List.pairwise_cons.2 ⟨?_, (List.pairwise_cons.1 h).2⟩
        intro entry mem
        simpa [same] using hrest entry mem

/-- Looking up compares the first key and goes on behind it. -/
theorem lookup_cons_eq_ite (key : String) (entry : String × α) (rest : List (String × α)) :
    (entry :: rest).lookup key = if key = entry.1 then some entry.2 else rest.lookup key := by
  rw [List.lookup_cons]
  by_cases h : key = entry.1
  · simp [h]
  · simp [h, beq_eq_false_iff_ne.2 h]

/-- Looking up after a write finds the written value under its key and all else as before. -/
theorem lookup_place (key other : String) (value : α) (entries : List (String × α)) :
    (place key value entries).lookup other =
      if other = key then some value else entries.lookup other := by
  induction entries with
  | nil => simp only [place, lookup_cons_eq_ite]
  | cons entry rest ih =>
    unfold place
    split
    · simp only [lookup_cons_eq_ite]
    · split
      · rename_i after
        simp only [lookup_cons_eq_ite, ih]
        have differs : key ≠ entry.1 := fun same => String.lt_irrefl _ (same ▸ after)
        by_cases h : other = key <;> simp_all
      · rename_i before after
        have same : key = entry.1 :=
          String.le_antisymm (String.not_lt.1 after) (String.not_lt.1 before)
        simp only [lookup_cons_eq_ite, same]
        split <;> rfl

/-- The dictionary without entries. -/
def empty : Dictionary α := ⟨[], .nil⟩

/-- The dictionary with a value written under a key. -/
def insert (dictionary : Dictionary α) (key : String) (value : α) : Dictionary α :=
  ⟨place key value dictionary.entries, ascending_place key value dictionary.ascending⟩

/-- The dictionary of a list of writes; of two writes under one key the later one stands. -/
def ofList (writes : List (String × α)) : Dictionary α :=
  writes.foldl (fun dictionary entry => dictionary.insert entry.1 entry.2) empty

/-- The value under a key. -/
def get? (dictionary : Dictionary α) (key : String) : Option α :=
  dictionary.entries.lookup key

/-- The empty dictionary has no value. -/
@[simp]
theorem get?_empty (key : String) : (empty : Dictionary α).get? key = none := rfl

/-- A written value stands under its key, and no other key is touched. -/
theorem get?_insert (dictionary : Dictionary α) (key other : String) (value : α) :
    (dictionary.insert key value).get? other =
      if other = key then some value else dictionary.get? other :=
  lookup_place key other value dictionary.entries

end Dictionary
end PromptDiagram
