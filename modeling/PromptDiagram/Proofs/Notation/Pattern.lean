import PromptDiagram.Proofs.Text.Runs

/-!
# Patterns

A pattern may match the beginning of a text in several ways, and a backtracking search tries them in
a fixed order: a greedy repetition takes as much as it can before it gives back, a lazy one as
little, and of two alternatives the first one is tried first. What is found in a text is the first
way at the leftmost place at which there is one. The statements say where this order makes no
difference: a repetition gives nothing back to what cannot begin with a character of its class.
-/

namespace PromptDiagram.Notation

open Text

/-- A pattern of texts. -/
inductive Pattern where
  | empty
  /-- One character of a class. -/
  | one (p : Char → Bool)
  /-- Any number of characters of a class, preferably many or preferably few. -/
  | many (greedy : Bool) (p : Char → Bool)
  /-- The end of the text. -/
  | atEnd
  | seq (first second : Pattern)
  | either (first second : Pattern)
  /-- A part of a pattern whose text is kept. -/
  | group (inner : Pattern)

/-- One way to match the beginning of a text: what is taken, what the groups keep of it, and what
is left. -/
structure Way where
  taken : List Char
  kept : List (List Char)
  rest : List Char

/-- One way after the other. -/
def Way.andThen (first second : Way) : Way :=
  ⟨first.taken ++ second.taken, first.kept ++ second.kept, second.rest⟩

/-- A way with one more character before it. -/
def Way.behind (c : Char) (way : Way) : Way :=
  { way with taken := c :: way.taken }

/-- A way whose text is kept. -/
def Way.grouped (way : Way) : Way :=
  { way with kept := way.taken :: way.kept }

/-- The ways to take characters of a class, the longest one first. -/
def runs (p : Char → Bool) : List Char → List Way
  | [] => [⟨[], [], []⟩]
  | c :: rest =>
    if p c then (runs p rest).map (Way.behind c) ++ [⟨[], [], c :: rest⟩]
    else [⟨[], [], c :: rest⟩]

/-- The ways in which a pattern matches the beginning of a text, in the order in which they are
tried. -/
def ways : Pattern → List Char → List Way
  | .empty, text => [⟨[], [], text⟩]
  | .one _, [] => []
  | .one p, c :: rest => if p c then [⟨[c], [], rest⟩] else []
  | .many true p, text => runs p text
  | .many false p, text => (runs p text).reverse
  | .atEnd, [] => [⟨[], [], []⟩]
  | .atEnd, _ :: _ => []
  | .seq first second, text =>
    (ways first text).flatMap fun way => (ways second way.rest).map way.andThen
  | .either first second, text => ways first text ++ ways second text
  | .group inner, text => (ways inner text).map Way.grouped

/-- At least one character of a class, preferably many. -/
def Pattern.oneOrMore (p : Char → Bool) : Pattern :=
  .seq (.one p) (.many true p)

/-! ## The ways of each kind of pattern -/

section

variable (p : Char → Bool) (first second : Pattern) (c : Char) (rest text : List Char)

/-- No character of a class begins the empty text. -/
theorem ways_one_nil : ways (.one p) [] = [] :=
  rfl

/-- A class matches one character if it is of the class. -/
theorem ways_one_cons : ways (.one p) (c :: rest) = if p c then [⟨[c], [], rest⟩] else [] :=
  rfl

/-- A greedy repetition tries the longest run first. -/
theorem ways_many : ways (.many true p) text = runs p text :=
  rfl

/-- A lazy repetition tries the shortest run first. -/
theorem ways_many_lazy : ways (.many false p) text = (runs p text).reverse :=
  rfl

/-- A text with a character does not end there. -/
theorem ways_atEnd_cons : ways .atEnd (c :: rest) = [] :=
  rfl

/-- Of two patterns in a row the second one matches what a way of the first one leaves. -/
theorem ways_seq : ways (.seq first second) text =
    (ways first text).flatMap fun way => (ways second way.rest).map way.andThen :=
  rfl

/-- Of two alternatives all ways of the first one are tried before those of the second one. -/
theorem ways_either : ways (.either first second) text = ways first text ++ ways second text :=
  rfl

/-- A group keeps what each way of its pattern takes. -/
theorem ways_group : ways (.group first) text = (ways first text).map Way.grouped :=
  rfl

end

/-! ## Searching -/

/-- Whether a search finds the leftmost match of every pattern in every text, and of those at its
place the one that is tried first. -/
def LeftmostFirst (search : Pattern → List Char → Option Way) : Prop :=
  ∀ pattern text,
    (search pattern text = none → ∀ before here, text = before ++ here →
      ways pattern here = []) ∧
    ∀ way, search pattern text = some way → ∃ skipped here, text = skipped ++ here ∧
      (ways pattern here).head? = some way ∧
      ∀ before after, text = before ++ after → before.length < skipped.length →
        ways pattern after = []

/-- The search that goes from place to place and tries the ways of each. -/
def backtrack (pattern : Pattern) : List Char → Option Way
  | [] => (ways pattern []).head?
  | c :: rest =>
    match (ways pattern (c :: rest)).head? with
    | some way => some way
    | none => backtrack pattern rest

/-- The matches in a text, each searched for in what the one before leaves. A match that takes
nothing would end them. -/
def matchesOf (search : Pattern → List Char → Option Way) (pattern : Pattern)
    (text : List Char) : List Way :=
  match search pattern text with
  | none => []
  | some way =>
    if way.rest.length < text.length then way :: matchesOf search pattern way.rest else [way]
termination_by text.length

/-- Going from place to place finds the first way at the leftmost place. -/
theorem leftmostFirst_backtrack : LeftmostFirst backtrack := by
  intro pattern text
  induction text with
  | nil =>
    refine ⟨fun failed before here parts => ?_, fun way found => ⟨[], [], rfl, found, ?_⟩⟩
    · obtain ⟨-, rfl⟩ := List.append_eq_nil_iff.mp parts.symm
      simpa [backtrack] using failed
    · simp
  | cons c rest ih =>
    cases here : (ways pattern (c :: rest)).head? with
    | some way =>
      simp only [backtrack, here]
      refine ⟨by simp, fun way' found => ⟨[], c :: rest, rfl, ?_, by simp⟩⟩
      exact here.trans found
    | none =>
      have nowhere : ways pattern (c :: rest) = [] := List.head?_eq_none_iff.mp here
      simp only [backtrack, here]
      refine ⟨fun failed before after parts => ?_, fun way found => ?_⟩
      · cases before with
        | nil => rwa [← List.nil_append after, ← parts]
        | cons d before => exact ih.1 failed before after (List.cons.inj parts).2
      · obtain ⟨skipped, after, rfl, first, leftmost⟩ := ih.2 way found
        refine ⟨c :: skipped, after, rfl, first, fun before behind parts shorter => ?_⟩
        cases before with
        | nil => rwa [← List.nil_append behind, ← parts]
        | cons d before =>
          exact leftmost before behind (List.cons.inj parts).2 (Nat.lt_of_succ_lt_succ shorter)

/-- There is one such search only. -/
theorem LeftmostFirst.unique {search search' : Pattern → List Char → Option Way}
    (documented : LeftmostFirst search) (documented' : LeftmostFirst search')
    (pattern : Pattern) (text : List Char) : search pattern text = search' pattern text := by
  cases found : search pattern text with
  | none =>
    cases found' : search' pattern text with
    | none => rfl
    | some way =>
      obtain ⟨skipped, here, parts, first, -⟩ := (documented' pattern text).2 way found'
      have nowhere := (documented pattern text).1 found skipped here parts
      simp [nowhere] at first
  | some way =>
    obtain ⟨skipped, here, parts, first, leftmost⟩ := (documented pattern text).2 way found
    cases found' : search' pattern text with
    | none =>
      have nowhere := (documented' pattern text).1 found' skipped here parts
      simp [nowhere] at first
    | some way' =>
      obtain ⟨skipped', here', parts', first', leftmost'⟩ :=
        (documented' pattern text).2 way' found'
      -- Neither place is left of the other.
      have notLeft : ¬skipped'.length < skipped.length := fun shorter => by
        simp [leftmost skipped' here' parts' shorter] at first'
      have notRight : ¬skipped.length < skipped'.length := fun shorter => by
        simp [leftmost' skipped here parts shorter] at first
      obtain ⟨-, rfl⟩ := List.append_inj (parts.symm.trans parts') (by omega)
      exact first.symm.trans first'

/-! ## Ways -/

/-- Whether no match of a pattern begins with a character. -/
def Refuses (pattern : Pattern) (c : Char) : Prop :=
  ∀ rest, ways pattern (c :: rest) = []

variable {p : Char → Bool} {c : Char} {first second : Pattern}

/-- A class refuses the characters outside of it. -/
theorem refuses_one (outside : p c = false) : Refuses (.one p) c := by
  intro rest
  simp [ways_one_cons, outside]

/-- The end of a text refuses every character. -/
theorem refuses_atEnd (c : Char) : Refuses .atEnd c :=
  fun _ => rfl

/-- Patterns in a row refuse what the first one refuses. -/
theorem Refuses.seq (refuses : Refuses first c) (second : Pattern) :
    Refuses (.seq first second) c := by
  intro rest
  simp [ways_seq, refuses rest]

/-- A group refuses what its pattern refuses. -/
theorem Refuses.group (refuses : Refuses first c) : Refuses (.group first) c := by
  intro rest
  simp [ways_group, refuses rest]

/-- One or more characters of a class refuse the characters outside of it. -/
theorem refuses_oneOrMore (outside : p c = false) : Refuses (.oneOrMore p) c :=
  (refuses_one outside).seq _

/-- A repetition and what follows it refuse what both of them refuse. -/
theorem Refuses.many_seq (outside : p c = false) (refuses : Refuses second c) :
    Refuses (.seq (.many true p) second) c := by
  intro rest
  simp [ways_seq, ways_many, runs, outside, refuses rest]

/-- A repetition that gives nothing back takes the longest run. -/
theorem flatMap_runs {α : Type} {follow : Way → List α}
    (keeps : ∀ taken c rest, p c = true → follow ⟨taken, [], c :: rest⟩ = [])
    (text : List Char) :
    (runs p text).flatMap follow = follow ⟨text.takeWhile p, [], text.dropWhile p⟩ := by
  induction text generalizing follow with
  | nil => simp [runs]
  | cons c rest ih =>
    cases within : p c with
    | false => simp [runs, within]
    | true =>
      have others := @ih (fun way => follow (way.behind c)) fun taken d rest inside =>
        keeps (c :: taken) d rest inside
      simpa [runs, within, List.flatMap_map, keeps [] c rest within, Way.behind] using others

/-- A class and what follows it. -/
theorem ways_one_seq (text : List Char) : ways (.seq (.one p) second) text =
    match text with
    | [] => []
    | c :: rest => if p c then (ways second rest).map (Way.andThen ⟨[c], [], rest⟩) else [] := by
  cases text with
  | nil => rfl
  | cons c rest => cases within : p c <;> simp [ways_seq, ways_one_cons, within]

/-- A repetition before what begins with no character of its class takes the longest run. -/
theorem ways_many_seq (refuses : ∀ c, p c = true → Refuses second c) (text : List Char) :
    ways (.seq (.many true p) second) text =
      (ways second (text.dropWhile p)).map
        (Way.andThen ⟨text.takeWhile p, [], text.dropWhile p⟩) := by
  rw [ways_seq, ways_many]
  refine flatMap_runs (fun taken c rest within => ?_) text
  simp [refuses c within rest]

/-- A repetition before a character of its class either goes on behind the character or, once all
of that has failed, leaves the character to what follows. -/
theorem ways_many_seq_of_mem (within : p c = true) (rest : List Char) :
    ways (.seq (.many true p) second) (c :: rest) =
      (ways (.seq (.many true p) second) rest).map (Way.behind c) ++ ways second (c :: rest) := by
  have behind (way : Way) : Way.andThen (way.behind c) = Way.behind c ∘ way.andThen := rfl
  have alone : Way.andThen ⟨[], [], c :: rest⟩ = id := rfl
  have left (way : Way) : (way.behind c).rest = way.rest := rfl
  simp only [ways_seq, ways_many, runs, within, if_true, List.flatMap_append, List.flatMap_map,
    behind, left, List.flatMap_singleton, alone, List.map_id, List.map_flatMap, List.map_map]

/-- A repetition before another character leaves it to what follows. -/
theorem ways_many_seq_of_not_mem (outside : p c = false) (rest : List Char) :
    ways (.seq (.many true p) second) (c :: rest) = ways second (c :: rest) := by
  have alone : Way.andThen ⟨[], [], c :: rest⟩ = id := rfl
  simp only [ways_seq, ways_many, runs, outside, Bool.false_eq_true, if_false,
    List.flatMap_singleton, alone, List.map_id]

/-- The longest run is tried first. -/
theorem head?_runs (text : List Char) :
    (runs p text).head? = some ⟨text.takeWhile p, [], text.dropWhile p⟩ := by
  induction text with
  | nil => rfl
  | cons c rest ih => cases within : p c <;> simp [runs, within, ih, Way.behind]

/-- One or more characters that are kept are first tried as the longest run. -/
theorem head?_ways_group_oneOrMore (text : List Char) :
    (ways (.group (.oneOrMore p)) text).head? =
      if text.takeWhile p = [] then none
      else some ⟨text.takeWhile p, [text.takeWhile p], text.dropWhile p⟩ := by
  cases text with
  | nil => rfl
  | cons c rest =>
    cases within : p c <;>
      simp [ways_group, ways_seq, ways_one_cons, ways_many, Pattern.oneOrMore, within, head?_runs,
        Way.andThen, Way.grouped]

/-- A repetition that is kept takes the longest run as well. -/
theorem ways_group_many_seq (refuses : ∀ c, p c = true → Refuses second c) (text : List Char) :
    ways (.seq (.group (.many true p)) second) text =
      (ways second (text.dropWhile p)).map
        (Way.andThen ⟨text.takeWhile p, [text.takeWhile p], text.dropWhile p⟩) := by
  simp only [ways_seq, ways_group, ways_many, List.flatMap_map]
  refine flatMap_runs (fun taken c rest within => ?_) text
  simp [Way.grouped, refuses c within rest]

/-- One or more characters that are kept are the longest run, which may not be empty. -/
theorem ways_group_oneOrMore_seq (refuses : ∀ c, p c = true → Refuses second c)
    (text : List Char) : ways (.seq (.group (.oneOrMore p)) second) text =
      if text.takeWhile p = [] then []
      else (ways second (text.dropWhile p)).map
        (Way.andThen ⟨text.takeWhile p, [text.takeWhile p], text.dropWhile p⟩) := by
  cases text with
  | nil => rfl
  | cons c rest =>
    cases within : p c with
    | false => simp [ways_seq, ways_group, ways_one_cons, Pattern.oneOrMore, within]
    | true =>
      have longest := @flatMap_runs p Way
        (fun way => (ways second way.rest).map
          (Way.andThen ⟨c :: way.taken, (c :: way.taken) :: way.kept, way.rest⟩))
        (fun taken d rest inside => by simp [refuses d inside rest]) rest
      simpa [ways_seq, ways_group, ways_one_cons, ways_many, Pattern.oneOrMore, within,
        List.flatMap_map, Way.andThen, Way.grouped] using longest

/-- A lazy repetition stops at the first place at which what follows it succeeds. -/
theorem head?_flatMap_reverse_runs {α : Type} {follow : Way → List α} {skipped here : List Char}
    (within : ∀ c ∈ skipped, p c = true)
    (fails : ∀ before after, skipped = before ++ after → after ≠ [] →
      follow ⟨before, [], after ++ here⟩ = []) {found : α}
    (succeeds : (follow ⟨skipped, [], here⟩).head? = some found) :
    ((runs p (skipped ++ here)).reverse.flatMap follow).head? = some found := by
  induction skipped generalizing follow with
  | nil =>
    have shortest : ∃ others, (runs p here).reverse = ⟨[], [], here⟩ :: others := by
      cases here with
      | nil => exact ⟨[], rfl⟩
      | cons c rest => cases inside : p c <;> simp [runs, inside]
    obtain ⟨others, first⟩ := shortest
    simp [first, succeeds]
  | cons c skipped ih =>
    have behind := @ih (fun way => follow (way.behind c))
      (fun d mem => within d (List.mem_cons_of_mem c mem))
      (fun before after parts => fails (c :: before) after (by rw [parts]; rfl)) succeeds
    have nowhere : follow ⟨[], [], c :: (skipped ++ here)⟩ = [] :=
      fails [] (c :: skipped) rfl (by simp)
    have shape : (runs p (c :: (skipped ++ here))).reverse =
        ⟨[], [], c :: (skipped ++ here)⟩ ::
          (runs p (skipped ++ here)).reverse.map (Way.behind c) := by
      simp [runs, within c List.mem_cons_self]
    rw [List.cons_append, shape, List.flatMap_cons, List.flatMap_map, nowhere, List.nil_append]
    exact behind

/-- A lazy repetition that is kept stops at the first place at which what follows it matches. -/
theorem head?_ways_group_lazy_seq {skipped here : List Char} (within : ∀ c ∈ skipped, p c = true)
    (fails : ∀ before after, skipped = before ++ after → after ≠ [] →
      ways second (after ++ here) = []) {way : Way}
    (succeeds : (ways second here).head? = some way) :
    (ways (.seq (.group (.many false p)) second) (skipped ++ here)).head? =
      some (Way.andThen ⟨skipped, [skipped], here⟩ way) := by
  simp only [ways_seq, ways_group, ways_many_lazy, List.flatMap_map]
  refine head?_flatMap_reverse_runs within (fun before after parts nonempty => ?_) ?_
  · simp [Way.grouped, fails before after parts nonempty]
  · simp [Way.grouped, succeeds]

/-- What a run takes and what it leaves make up the text. -/
theorem parts_of_mem_runs {text : List Char} {way : Way} (tried : way ∈ runs p text) :
    text = way.taken ++ way.rest := by
  induction text generalizing way with
  | nil =>
    obtain rfl : way = ⟨[], [], []⟩ := by simpa [runs] using tried
    rfl
  | cons c rest ih =>
    simp only [runs] at tried
    split at tried
    · rcases List.mem_append.mp tried with longer | shortest
      · obtain ⟨shorter, run, rfl⟩ := List.mem_map.mp longer
        simpa [Way.behind] using ih run
      · rw [List.mem_singleton.mp shortest, List.nil_append]
    · rw [List.mem_singleton.mp tried, List.nil_append]

/-- What is taken and what is left make up the text. -/
theorem parts_of_mem_ways {pattern : Pattern} {text : List Char} {way : Way}
    (tried : way ∈ ways pattern text) : text = way.taken ++ way.rest := by
  induction pattern generalizing text way with
  | empty => rw [List.mem_singleton.mp tried, List.nil_append]
  | one p =>
    cases text with
    | nil => simp [ways_one_nil] at tried
    | cons c rest =>
      obtain ⟨-, rfl⟩ : p c = true ∧ way = ⟨[c], [], rest⟩ := by
        simpa [ways_one_cons] using tried
      rfl
  | many greedy p =>
    cases greedy with
    | true => exact parts_of_mem_runs tried
    | false => exact parts_of_mem_runs (List.mem_reverse.mp tried)
  | atEnd =>
    cases text with
    | nil =>
      rw [List.mem_singleton.mp tried]
      rfl
    | cons c rest => simp [ways_atEnd_cons] at tried
  | seq first second ihFirst ihSecond =>
    obtain ⟨before, front, others⟩ := List.mem_flatMap.mp tried
    obtain ⟨behind, back, rfl⟩ := List.mem_map.mp others
    rw [ihFirst front, ihSecond back, Way.andThen, List.append_assoc]
  | either first second ihFirst ihSecond =>
    rcases List.mem_append.mp tried with front | back
    · exact ihFirst front
    · exact ihSecond back
  | group inner ih =>
    obtain ⟨inside, within, rfl⟩ := List.mem_map.mp tried
    have parts := ih within
    exact parts

/-! ## Matches -/

/-- Whether a pattern takes at least a character wherever it matches. -/
def Takes (pattern : Pattern) : Prop :=
  ∀ text, ∀ way ∈ ways pattern text, way.taken ≠ []

/-- A pattern that begins with one or more characters of a class takes a character. -/
theorem takes_oneOrMore_seq (p : Char → Bool) (second : Pattern) :
    Takes (.seq (.group (.oneOrMore p)) second) := by
  intro text way tried
  cases text with
  | nil => simp [ways_seq, ways_group, ways_one_nil, Pattern.oneOrMore] at tried
  | cons c rest =>
    simp only [ways_seq, ways_group, ways_one_cons, Pattern.oneOrMore, List.mem_flatMap,
      List.mem_map] at tried
    obtain ⟨_, ⟨_, ⟨first, tried, _, -, rfl⟩, rfl⟩, _, -, rfl⟩ := tried
    split at tried
    · obtain rfl := List.mem_singleton.mp tried
      simp [Way.grouped, Way.andThen]
    · simp at tried

/-- The match that is found leaves less than the text. -/
theorem length_rest_of_backtrack {pattern : Pattern} (takes : Takes pattern) {text : List Char}
    {way : Way} (found : backtrack pattern text = some way) :
    way.rest.length < text.length := by
  obtain ⟨skipped, here, rfl, first, -⟩ := (leftmostFirst_backtrack pattern text).2 way found
  have tried := List.mem_of_mem_head? first
  have parts := parts_of_mem_ways tried
  have nonempty := List.length_pos_iff.mpr (takes here way tried)
  rw [parts]
  simp only [List.length_append]
  omega

/-- Where a pattern does not match, its matches are those from one character further on. -/
theorem matchesOf_of_nil {pattern : Pattern} (takes : Takes pattern) {c : Char}
    {rest : List Char} (nowhere : ways pattern (c :: rest) = []) :
    matchesOf backtrack pattern (c :: rest) = matchesOf backtrack pattern rest := by
  have same : backtrack pattern (c :: rest) = backtrack pattern rest := by
    simp [backtrack, nowhere]
  rw [matchesOf, matchesOf, same]
  cases found : backtrack pattern rest with
  | none => rfl
  | some way =>
    have shorter := length_rest_of_backtrack takes found
    have shorter' := length_rest_of_backtrack takes (same.trans found)
    simp only [if_pos shorter, if_pos shorter']

/-- Where a pattern matches, the way that is tried first is followed by the matches in what it
leaves. -/
theorem matchesOf_of_head {pattern : Pattern} (takes : Takes pattern) {c : Char}
    {rest : List Char} {way : Way} (first : (ways pattern (c :: rest)).head? = some way) :
    matchesOf backtrack pattern (c :: rest) =
      way :: matchesOf backtrack pattern way.rest := by
  have found : backtrack pattern (c :: rest) = some way := by simp [backtrack, first]
  rw [matchesOf, found]
  simp only [if_pos (length_rest_of_backtrack takes found)]

end PromptDiagram.Notation
