import Mathlib.Data.List.Nodup
import PromptDiagram.Alias
import PromptDiagram.Proofs.Text.Runs

/-!
# The search for a free name

An id tries its candidates in order until one is free, with no bound set on the search. Candidates
differ from each other, so the search stops after no more failures than there are names taken, and
it stops at the name that the table of aliases holds. Every candidate of an id can stand as an
identifier.
-/

namespace PromptDiagram

open Text

variable {base id : String} {taken : List String}

/-- The search without a bound: from a number on, candidates are tried until one is free. -/
inductive Searches (base : String) (taken : List String) : Nat → Nat → Prop
  | stop {n : Nat} : candidate base n ∉ taken → Searches base taken n n
  | next {n m : Nat} : candidate base n ∈ taken → Searches base taken (n + 1) m →
      Searches base taken n m

/-- Numbers are told apart by their decimal numerals. -/
theorem toString_injective {m n : Nat} (same : toString m = toString n) : m = n := by
  have digits : Nat.toDigits 10 m = Nat.toDigits 10 n := by
    simpa only [Nat.toString_eq_repr, Nat.toList_repr] using congrArg String.toList same
  have values := congrArg (fun digits => Nat.ofDigitChars 10 digits 0) digits
  simpa using values

/-- Candidates of one id with different numbers differ. -/
theorem candidate_injective {m n : Nat} (same : candidate base m = candidate base n) : m = n := by
  have chars := congrArg String.toList same
  cases m <;> cases n <;> simp only [candidate, String.toList_append] at chars
  case zero.zero => rfl
  case zero.succ => simp at chars
  case succ.zero => simp at chars
  case succ.succ m n =>
    have numerals := List.append_cancel_left chars
    have values := toString_injective (String.toList_inj.mp numerals)
    omega

/-- Some candidate with a number up to the count of the names that are taken is free. -/
theorem exists_free (base : String) (taken : List String) :
    ∃ n ≤ taken.length, candidate base n ∉ taken := by
  by_contra noneFree
  have allTaken : ∀ n ≤ taken.length, candidate base n ∈ taken := by simpa using noneFree
  have nodup : ((List.range (taken.length + 1)).map (candidate base)).Nodup :=
    List.Nodup.map (fun _ _ => candidate_injective) List.nodup_range
  have within : (List.range (taken.length + 1)).map (candidate base) ⊆ taken := by
    intro name mem
    obtain ⟨n, bound, rfl⟩ := List.mem_map.mp mem
    exact allTaken n (Nat.lt_succ_iff.mp (List.mem_range.mp bound))
  have count := nodup.length_le_of_subset within
  simp only [List.length_map, List.length_range] at count
  omega

/-- The name that is found is the first of the candidates that is free. -/
theorem firstFree_spec (base : String) (taken : List String) :
    ∃ n ≤ taken.length, firstFree base taken = candidate base n ∧
      candidate base n ∉ taken ∧ ∀ m < n, candidate base m ∈ taken := by
  cases found : (List.range (taken.length + 1)).find? fun n =>
      !taken.contains (candidate base n) with
  | none =>
    obtain ⟨n, bound, free⟩ := exists_free base taken
    have all := List.find?_eq_none.mp found n (List.mem_range.mpr (by omega))
    exact absurd (by simpa using all) free
  | some n =>
    obtain ⟨free, bound, before⟩ := List.find?_range_eq_some.mp found
    refine ⟨n, Nat.lt_succ_iff.mp (List.mem_range.mp bound), ?_, by simpa using free, ?_⟩
    · rw [firstFree, found, Option.getD_some]
    · intro m less
      simpa using before m less

/-- The name that is found is free. -/
theorem firstFree_not_mem (base : String) (taken : List String) :
    firstFree base taken ∉ taken := by
  obtain ⟨n, -, name, free, -⟩ := firstFree_spec base taken
  rw [name]
  exact free

/-- A search stops at a candidate if that one is free and those before it are taken. -/
theorem searches_of_first {n : Nat} (free : candidate base n ∉ taken)
    (before : ∀ m < n, candidate base m ∈ taken) : ∀ m ≤ n, Searches base taken m n := by
  intro m bound
  induction h : n - m generalizing m with
  | zero =>
    obtain rfl : m = n := by omega
    exact .stop free
  | succ gap ih => exact .next (before m (by omega)) (ih (m + 1) (by omega) (by omega))

/-- The search without a bound stops, at the name that is found and after no more failures than
there are names taken. -/
theorem exists_searches (base : String) (taken : List String) :
    ∃ n ≤ taken.length, Searches base taken 0 n ∧ candidate base n = firstFree base taken := by
  obtain ⟨n, bound, name, free, before⟩ := firstFree_spec base taken
  exact ⟨n, bound, searches_of_first free before 0 (Nat.zero_le n), name.symm⟩

/-- A search fails at every candidate on its way and stops at one that is free. -/
theorem Searches.fails_before {n m : Nat} (search : Searches base taken n m) :
    candidate base m ∉ taken ∧ ∀ k, n ≤ k → k < m → candidate base k ∈ taken := by
  induction search with
  | stop free => exact ⟨free, fun k least less => absurd least (Nat.not_le_of_lt less)⟩
  | next held _ ih =>
    refine ⟨ih.1, fun k least less => ?_⟩
    rcases Nat.eq_or_lt_of_le least with rfl | later
    · exact held
    · exact ih.2 k later less

/-- A search stops at the first candidate that is free. -/
theorem searches_iff {n : Nat} : Searches base taken 0 n ↔
    candidate base n ∉ taken ∧ ∀ m < n, candidate base m ∈ taken := by
  constructor
  · intro search
    exact ⟨search.fails_before.1, fun m => search.fails_before.2 m (Nat.zero_le m)⟩
  · rintro ⟨free, before⟩
    exact searches_of_first free before 0 (Nat.zero_le n)

/-- A search stops at one candidate only. -/
theorem Searches.unique {n m : Nat} (search : Searches base taken 0 n)
    (other : Searches base taken 0 m) : n = m := by
  obtain ⟨free, before⟩ := searches_iff.mp search
  obtain ⟨free', before'⟩ := searches_iff.mp other
  rcases Nat.lt_trichotomy n m with less | same | more
  · exact absurd (before' n less) free
  · exact same
  · exact absurd (before m more) free'

/-- A search stops at the name that is computed. -/
theorem Searches.firstFree_eq {n : Nat} (search : Searches base taken 0 n) :
    firstFree base taken = candidate base n := by
  obtain ⟨m, -, other, name⟩ := exists_searches base taken
  rw [← name, search.unique other]

/-! ## The form of candidates -/

/-- A digit is a character of a word. -/
theorem isWord_of_isDigit {c : Char} (digit : c.isDigit = true) : isWord c = true := by
  have same : isDigit c = true := by
    simpa [isDigit, Char.isDigit, Char.le_def] using digit
  simp [isWord, same]

/-- A text in words' characters only stays in form when more of them follow. -/
theorem isIdentifier_append {front back : List Char} (identifier : isIdentifier front = true)
    (words : ∀ c ∈ back, isWord c = true) : isIdentifier (front ++ back) = true := by
  cases front with
  | nil => simp [isIdentifier] at identifier
  | cons first rest =>
    obtain ⟨start, others⟩ : isWordStart first = true ∧ ∀ c ∈ rest, isWord c = true := by
      simpa [isIdentifier] using identifier
    simp only [List.cons_append, isIdentifier, start, Bool.true_and, List.all_append,
      Bool.and_eq_true, List.all_eq_true]
    exact ⟨others, words⟩

/-- A reserved word has no underscore. -/
theorem underscore_not_mem_of_isReserved {text : List Char} (reserved : isReserved text = true) :
    '_' ∉ text := by
  have letters : "end".toList = ['e', 'n', 'd'] := rfl
  simp only [isReserved, reservedWords, sameIgnoringCase, List.any_cons, List.any_nil,
    Bool.or_false, beq_iff_eq, letters] at reserved
  intro mem
  have lowered : lower '_' ∈ text.map lower := List.mem_map_of_mem mem
  rw [← reserved] at lowered
  exact absurd lowered (by decide)

/-- The characters of a word form are those of words. -/
theorem isWord_of_mem_wordForm {text : List Char} {c : Char} (mem : c ∈ wordForm text) :
    isWord c = true := by
  obtain ⟨d, -, rfl⟩ := List.mem_map.mp mem
  split
  · assumption
  · decide

/-- A word with a letter first is an identifier. -/
theorem isIdentifier_withLetterFirst {word : List Char} (words : ∀ c ∈ word, isWord c = true) :
    isIdentifier (withLetterFirst word) = true := by
  cases word with
  | nil => decide
  | cons first rest =>
    rw [withLetterFirst]
    split
    · have letterFirst : isIdentifier ['n', '_'] = true := by decide
      exact isIdentifier_append letterFirst words
    · rename_i noDigit
      have start : isWordStart first = true := by
        have inWord := words first List.mem_cons_self
        simp only [isWord, Bool.or_eq_true] at inWord
        simp only [isWordStart, Bool.or_eq_true]
        rcases inWord with (letter | digit) | underscore
        · exact .inl letter
        · exact absurd digit noDigit
        · exact .inr underscore
      simp only [isIdentifier, start, Bool.true_and, List.all_eq_true]
      exact fun c mem => words c (List.mem_cons_of_mem first mem)

/-- The identifier that an id asks for first can stand for itself. -/
theorem isBare_baseAlias (id : String) : isBare (baseAlias id) = true := by
  have words : ∀ c ∈ wordForm id.toList, isWord c = true := fun c mem =>
    isWord_of_mem_wordForm mem
  have form := isIdentifier_withLetterFirst words
  simp only [isBare, baseAlias, String.toList_ofList, Bool.and_eq_true, Bool.not_eq_true']
  split
  · refine ⟨isIdentifier_append form (List.all_eq_true.mp rfl), ?_⟩
    apply Bool.eq_false_iff.mpr
    intro longer
    exact underscore_not_mem_of_isReserved longer (by simp)
  · rename_i free
    exact ⟨form, by simpa using free⟩

/-- Every candidate of an id can stand for itself. -/
theorem isBare_candidate (id : String) (n : Nat) :
    isBare (candidate (baseAlias id) n) = true := by
  have base := isBare_baseAlias id
  cases n with
  | zero => exact base
  | succ n =>
    simp only [isBare, Bool.and_eq_true] at base
    have numeral : ∀ c ∈ Nat.toDigits 10 (n + 2), isWord c = true := fun c mem =>
      isWord_of_isDigit (Nat.isDigit_of_mem_toDigits (by decide) (by decide) mem)
    have chars : (candidate (baseAlias id) (n + 1)).toList =
        (baseAlias id).toList ++ '_' :: Nat.toDigits 10 (n + 2) := by
      simp [candidate, Nat.toString_eq_repr, Nat.toList_repr]
    simp only [isBare, chars, Bool.and_eq_true, Bool.not_eq_true']
    constructor
    · apply isIdentifier_append base.1
      intro c mem
      rcases List.mem_cons.mp mem with rfl | mem
      · decide
      · exact numeral c mem
    · apply Bool.eq_false_iff.mpr
      intro reserved
      exact underscore_not_mem_of_isReserved reserved (by simp)

end PromptDiagram
