import PromptDiagram.Proofs.Notation.Pattern
import PromptDiagram.Proofs.Notation.Scanning
import PromptDiagram.Proofs.Notation.Sections

/-!
# The notation as patterns

The notation can be told by four patterns: one for each section and one for each kind of item. A
search that tries every way of them, in order, finds the same nodes and edges as reading straight
on, in every text. Only one choice matters: where no label follows the blanks behind a colon, the
last of them that is no line feed is given back and stands for the label. It is trimmed away, and
the line feeds behind it that are left over hold no item.
-/

namespace PromptDiagram.Notation

open Text

/-! ## The patterns -/

/-- A letter of a token, in either case; the long s is a case of the letter s. -/
def anyCase (letter c : Char) : Bool :=
  lower c == lower letter || (letter == 'S' && c == 'ſ')

/-- A token in any letter case. -/
def tokenPattern : List Char → Pattern
  | [] => .empty
  | letter :: token => .seq (.one (anyCase letter)) (tokenPattern token)

/-- The token that opens the section of nodes, in any letter case. -/
def nodesPattern : Pattern :=
  tokenPattern ['N', 'O', 'D', 'E', 'S', ':']

/-- The token that opens the section of edges, in any letter case. -/
def edgesPattern : Pattern :=
  tokenPattern ['E', 'D', 'G', 'E', 'S', ':']

/-- Any character. -/
def anything (_ : Char) : Bool :=
  true

/-- The section of nodes: `NODES:`, few characters, then `EDGES:` or the end of the text. -/
def nodesSectionPattern : Pattern :=
  .seq nodesPattern (.seq (.group (.many false anything)) (.either edgesPattern .atEnd))

/-- The section of edges: `EDGES:`, many characters, then the end of the text. -/
def edgesSectionPattern : Pattern :=
  .seq edgesPattern (.seq (.group (.many true anything)) .atEnd)

/-- A node: a word, then anything but a closing parenthesis between parentheses. -/
def nodePattern : Pattern :=
  .seq (.group (.oneOrMore isWord)) (.seq (.one (· == '('))
    (.seq (.group (.many true (· != ')'))) (.one (· == ')'))))

/-- The label of an edge behind its colon: blanks, then anything but a semicolon or line feed. -/
def labelPattern : Pattern :=
  .seq (.many true isBlank) (.group (.oneOrMore inLabel))

/-- An edge: a word, an arrow, a word, a colon and a label, with blanks between them. -/
def edgePattern : Pattern :=
  .seq (.group (.oneOrMore isWord)) (.seq (.many true isBlank)
    (.seq (.one (· == '-')) (.seq (.one (· == '>')) (.seq (.many true isBlank)
      (.seq (.group (.oneOrMore isWord)) (.seq (.many true isBlank)
        (.seq (.one (· == ':')) labelPattern)))))))

/-- What a group of a match has kept, without the blanks at its ends. -/
def Way.text (way : Way) (index : Nat) : String :=
  String.ofList (trim (way.kept.getD index []))

/-- The node that a match stands for. -/
def Way.node (way : Way) : Node where
  id := way.text 0
  label := some (way.text 1)

/-- The edge that a match stands for. -/
def Way.edge (way : Way) : Edge where
  source := way.text 0
  target := way.text 1
  label := some (way.text 2)

/-- What is found of items in the section of a text: nothing where there is no section. -/
def foundIn {α : Type} (search : Pattern → List Char → Option Way) (around item : Pattern)
    (made : Way → α) (text : List Char) : List α :=
  match search around text with
  | none => []
  | some way => (matchesOf search item (way.kept.getD 0 [])).map made

/-- The graph that a search for the patterns finds in a text. -/
def foundGraph (search : Pattern → List Char → Option Way) (text : List Char) : Graph where
  nodes := foundIn search nodesSectionPattern nodePattern Way.node text
  edges := foundIn search edgesSectionPattern edgePattern Way.edge text

/-! ## Items -/

/-- Whether the ways of a pattern begin with the item that is read off a text. What the first way
leaves may begin with blanks that are passed over in reading. -/
def Matched {α : Type} (tried : List Way) (made : Way → α) : Option (α × List Char) → Prop
  | none => tried = []
  | some (item, rest) => ∃ way blanks, tried.head? = some way ∧ made way = item ∧
      way.rest = blanks ++ rest ∧ ∀ c ∈ blanks, isBlank c = true

/-- The matches of a pattern are the items of a text if, wherever one looks, the first way of the
pattern is the item that is read there. -/
theorem matchesOf_eq_items {α : Type} {pattern : Pattern} {made : Way → α}
    {item? : List Char → Option (α × List Char)} (takes : Takes pattern)
    (shortens : Shortens item?) (words : BeginsWithWord item?)
    (matched : ∀ text, Matched (ways pattern text) made (item? text)) (text : List Char) :
    (matchesOf backtrack pattern text).map made = items item? text := by
  induction count : text.length using Nat.strongRecOn generalizing text with
  | ind n ih =>
    have here := matched text
    cases text with
    | nil =>
      have unread : item? [] = none := by
        cases read : item? [] with
        | none => rfl
        | some found => exact absurd (shortens read) (Nat.not_lt_zero _)
      have nowhere : ways pattern [] = [] := by simpa [unread, Matched] using here
      have failed : backtrack pattern [] = none := by simp [backtrack, nowhere]
      rw [matchesOf, failed, items_nil]
      rfl
    | cons c rest =>
      cases read : item? (c :: rest) with
      | none =>
        have nowhere : ways pattern (c :: rest) = [] := by simpa [read, Matched] using here
        rw [matchesOf_of_nil takes nowhere, items_of_none read]
        exact ih rest.length (by simp [← count]) rest rfl
      | some found =>
        obtain ⟨item, after⟩ := found
        rw [read] at here
        obtain ⟨way, blanks, first, rfl, leaves, blank⟩ := here
        have shorter : way.rest.length < (c :: rest).length :=
          length_rest_of_backtrack takes (by simp [backtrack, first])
        rw [matchesOf_of_head takes first, items_of_some shortens read, List.map_cons,
          ih way.rest.length (count ▸ shorter) way.rest rfl, leaves,
          items_append words fun c mem => not_isWord_of_isBlank (blank c mem)]

/-! ## Marks and words -/

/-- Two marks in a row are passed over one after the other. -/
theorem skip?_pair (first second : Char) (text : List Char) :
    skip? [first, second] text = (skip? [first] text).bind (skip? [second]) := by
  cases text with
  | nil => rfl
  | cons c rest =>
    by_cases here : first = c
    · simp [skip?, here]
    · simp [skip?, here]

/-- A mark and what follows it. -/
theorem ways_mark_seq (mark : Char) (second : Pattern) (text : List Char) :
    ways (.seq (.one (· == mark)) second) text =
      match skip? [mark] text with
      | none => []
      | some rest => (ways second rest).map (Way.andThen ⟨[mark], [], rest⟩) := by
  rw [ways_one_seq]
  cases text with
  | nil => rfl
  | cons c rest =>
    by_cases here : c = mark
    · simp [skip?, here]
    · have other : (mark == c) = false := by simpa using Ne.symm here
      simp [skip?, here, other]

/-- What follows two ways follows the first one and then the second one. -/
theorem map_andThen_map (tried : List Way) (first second : Way) :
    (tried.map second.andThen).map first.andThen = tried.map (first.andThen second).andThen := by
  simp [Way.andThen]

/-- What begins with a mark refuses the characters of a class that the mark is not of. -/
theorem refuses_mark {p : Char → Bool} {mark c : Char} (outside : p mark = false)
    (within : p c = true) (second : Pattern) :
    Refuses (.seq (.one (· == mark)) second) c := by
  refine (refuses_one ?_).seq second
  rw [beq_eq_false_iff_ne]
  rintro rfl
  simp [within] at outside

/-- Trimming leaves a run of a word's characters as it is. -/
theorem trim_word {word : List Char} (within : ∀ c ∈ word, isWord c = true) :
    trim word = word :=
  trim_of_isTrimmed
    ⟨fun c mem => not_isBlank_of_isWord (within c (List.mem_of_mem_head? mem)),
      fun c mem => not_isBlank_of_isWord (within c (List.mem_of_mem_getLast? mem))⟩

/-! ## Nodes -/

/-- Reading up to a parenthesis takes the longest run before it. -/
theorem upToParenthesis?_eq (text : List Char) : upToParenthesis? text =
    match text.dropWhile (· != ')') with
    | [] => none
    | _ :: rest => some (text.takeWhile (· != ')'), rest) := by
  induction text with
  | nil => rfl
  | cons c rest ih =>
    by_cases closes : c = ')'
    · simp [upToParenthesis?, closes]
    · simp only [upToParenthesis?, ih, List.dropWhile_cons, List.takeWhile_cons]
      cases rest.dropWhile (· != ')') <;> simp [closes]

/-- The first way of a node is the node that is read. -/
theorem matched_node (text : List Char) :
    Matched (ways nodePattern text) Way.node (node? text) := by
  have afterWord (c : Char) (word : isWord c = true) :
      Refuses (.seq (.one (· == '(')) (.seq (.group (.many true (· != ')')))
        (.one (· == ')')))) c :=
    refuses_mark (by decide) word _
  have afterLabel (c : Char) (inside : (c != ')') = true) : Refuses (.one (· == ')')) c :=
    refuses_one (by simpa using inside)
  have word : trim (text.takeWhile isWord) = text.takeWhile isWord :=
    trim_word (List.all_eq_true.mp List.all_takeWhile)
  rw [nodePattern, ways_group_oneOrMore_seq afterWord, node?, word?]
  cases chars : text.takeWhile isWord with
  | nil => simp [Matched]
  | cons first others =>
    rw [chars] at word
    simp only [reduceCtorEq, if_false, ways_mark_seq, Option.bind_eq_bind, Option.bind_some]
    cases skip? ['('] (text.dropWhile isWord) with
    | none => simp [Matched]
    | some behind =>
      simp only [Option.bind_some, ways_group_many_seq afterLabel, upToParenthesis?_eq]
      cases left : behind.dropWhile (· != ')') with
      | nil => simp [Matched, ways_one_nil]
      | cons c after =>
        have closes : (c == ')') = true := by
          have stops := stops_dropWhile (· != ')') behind
          rw [left, stops_cons] at stops
          simpa using stops
        simp only [ways_one_cons, closes, if_true, Option.bind_some]
        refine ⟨_, [], rfl, ?_, rfl, by simp⟩
        simp [Way.node, Way.text, Way.andThen, word]

/-! ## Edges -/

/-- The label that a match stands for. -/
def Way.label (way : Way) : List Char :=
  trim (way.kept.getD 0 [])

/-- The label of an edge as it is read, without the blanks at its ends. -/
def trimmedLabel? (text : List Char) : Option (List Char × List Char) :=
  (label? text).map fun (label, rest) => (trim label, rest)

/-- A blank before a label makes no difference to it. -/
theorem label?_of_blank {c : Char} (blank : isBlank c = true) {rest : List Char}
    {read : List Char × List Char} (here : label? rest = some read) :
    label? (c :: rest) = some read := by
  simp only [label?, skipBlanks, List.takeWhile_cons, List.dropWhile_cons, blank, if_true,
    List.any_cons] at here ⊢
  split at here
  · rename_i unlabelled
    split at here
    · rename_i more
      simp only [more, Bool.or_true, if_true, here]
    · simp at here
  · rename_i label more
    simpa using here

/-- Where no label is read none begins, not even among the blanks. -/
theorem takeWhile_of_label?_eq_none {text : List Char} (unlabelled : label? text = none) :
    text.takeWhile inLabel = [] := by
  simp only [label?] at unlabelled
  split at unlabelled
  · split at unlabelled
    · simp at unlabelled
    · cases text with
      | nil => rfl
      | cons c rest => cases blank : isBlank c <;> simp_all [skipBlanks]
  · simp at unlabelled

/-- A blank stands for an empty label where none is read behind it, unless it is a line feed. -/
theorem label?_of_blank_of_none {c : Char} (blank : isBlank c = true) {rest : List Char}
    (unlabelled : label? rest = none) :
    label? (c :: rest) = if inLabel c then some ([], skipBlanks rest) else none := by
  simp only [label?, skipBlanks, List.takeWhile_cons, List.dropWhile_cons, blank, if_true,
    List.any_cons] at unlabelled ⊢
  split at unlabelled
  · split at unlabelled
    · simp at unlabelled
    · rename_i feeds
      simp only [Bool.eq_false_iff.mpr feeds, Bool.or_false]
  · simp at unlabelled

/-- The first way of a label is the label that is read. The induction goes from blank to blank: as
long as some way succeeds behind a blank the blank is not given back. -/
theorem matched_label (text : List Char) :
    Matched (ways labelPattern text) Way.label (trimmedLabel? text) := by
  induction text with
  | nil => rfl
  | cons c rest ih =>
    have kept := head?_ways_group_oneOrMore (p := inLabel) (c :: rest)
    cases blank : isBlank c with
    | false =>
      rw [labelPattern, ways_many_seq_of_not_mem blank]
      cases within : inLabel c with
      | false =>
        have refused := (refuses_oneOrMore within).group rest
        simpa [trimmedLabel?, label?, skipBlanks, blank, within, Matched] using refused
      | true =>
        rw [if_neg (by simp [within])] at kept
        simp only [trimmedLabel?, label?, skipBlanks, blank, within, List.takeWhile_cons,
          List.dropWhile_cons, Bool.false_eq_true, if_false, if_true, Option.map_some] at kept ⊢
        exact ⟨_, [], kept, rfl, rfl, by simp⟩
    | true =>
      rw [labelPattern, ways_many_seq_of_mem blank, ← labelPattern]
      cases read : label? rest with
      | some found =>
        simp only [trimmedLabel?, read, label?_of_blank blank read, Option.map_some] at ih ⊢
        obtain ⟨way, blanks, first, label, leaves, blank⟩ := ih
        exact ⟨way.behind c, blanks, by simp [first], label, leaves, blank⟩
      | none =>
        have nowhere : ways labelPattern rest = [] := by
          simpa [trimmedLabel?, read, Matched] using ih
        rw [nowhere, List.map_nil, List.nil_append, trimmedLabel?,
          label?_of_blank_of_none blank read]
        cases within : inLabel c with
        | false => exact (refuses_oneOrMore within).group rest
        | true =>
          -- The blank is given back and is all of the label; line feeds stand behind it.
          have short := takeWhile_of_label?_eq_none read
          have left : rest.dropWhile inLabel = rest := by
            simpa [short] using List.takeWhile_append_dropWhile (p := inLabel) (l := rest)
          rw [if_neg (by simp [within])] at kept
          simp only [List.takeWhile_cons, List.dropWhile_cons, within, if_true, short, left] at kept
          refine ⟨_, rest.takeWhile isBlank, kept, ?_, ?_, List.all_eq_true.mp List.all_takeWhile⟩
          · simp [Way.label, trim, trimEnd, blank]
          · exact List.takeWhile_append_dropWhile.symm

/-- An edge is found where its label is, behind two words. -/
theorem matched_edge_of_label {source target : String} {front : Way}
    (kept : front.kept.map (fun text => String.ofList (trim text)) = [source, target])
    (text : List Char) :
    Matched ((ways labelPattern text).map front.andThen) Way.edge
      ((label? text).map fun (label, rest) =>
        ({ source, target, label := some (String.ofList (trim label)) }, rest)) := by
  have matched := matched_label text
  match front, kept with
  | ⟨taken, [first, second], rest⟩, kept =>
    obtain ⟨rfl, rfl⟩ :
        String.ofList (trim first) = source ∧ String.ofList (trim second) = target := by
      simpa using kept
    cases read : label? text with
    | none => simpa [trimmedLabel?, read, Matched] using matched
    | some found =>
      simp only [trimmedLabel?, read, Option.map_some] at matched
      obtain ⟨way, blanks, tried, label, leaves, blank⟩ := matched
      refine ⟨Way.andThen ⟨taken, [first, second], rest⟩ way, blanks, ?_, ?_, leaves, blank⟩
      · rw [List.head?_map, tried, Option.map_some]
      · simp [Way.edge, Way.text, Way.andThen, ← label, Way.label]

/-- The first way of an edge is the edge that is read. -/
theorem matched_edge (text : List Char) :
    Matched (ways edgePattern text) Way.edge (edge? text) := by
  have afterWord {mark : Char} (other : isWord mark = false) (second : Pattern) (c : Char)
      (word : isWord c = true) :
      Refuses (.seq (.many true isBlank) (.seq (.one (· == mark)) second)) c :=
    (refuses_mark other word second).many_seq (not_isBlank_of_isWord word)
  have beforeMark {mark : Char} (other : isBlank mark = false) (second : Pattern) (c : Char)
      (blank : isBlank c = true) : Refuses (.seq (.one (· == mark)) second) c :=
    refuses_mark other blank second
  have beforeWord (second : Pattern) (c : Char) (blank : isBlank c = true) :
      Refuses (.seq (.group (.oneOrMore isWord)) second) c :=
    (refuses_oneOrMore (not_isWord_of_isBlank blank)).group.seq second
  have word (text : List Char) : trim (text.takeWhile isWord) = text.takeWhile isWord :=
    trim_word (List.all_eq_true.mp List.all_takeWhile)
  have source := word text
  rw [edgePattern, ways_group_oneOrMore_seq (afterWord (by decide) _), edge?, word?]
  cases chars : text.takeWhile isWord with
  | nil => simp [Matched]
  | cons first others =>
    rw [chars] at source
    simp only [reduceCtorEq, if_false, Option.bind_eq_bind, Option.bind_some, skip?_pair]
    rw [ways_many_seq (beforeMark (by decide) _), ways_mark_seq, ← skipBlanks]
    cases skip? ['-'] (skipBlanks (text.dropWhile isWord)) with
    | none => simp [Matched]
    | some behindDash =>
      simp only [Option.bind_some, ways_mark_seq]
      cases skip? ['>'] behindDash with
      | none => simp [Matched]
      | some behindArrow =>
        simp only [Option.bind_some]
        rw [ways_many_seq (beforeWord _), ← skipBlanks,
          ways_group_oneOrMore_seq (afterWord (by decide) _), word?]
        have target := word (skipBlanks behindArrow)
        cases chars' : (skipBlanks behindArrow).takeWhile isWord with
        | nil => simp [Matched]
        | cons first' others' =>
          rw [chars'] at target
          simp only [reduceCtorEq, if_false, Option.bind_some]
          rw [ways_many_seq (beforeMark (by decide) _), ways_mark_seq, ← skipBlanks]
          cases skip? [':'] (skipBlanks ((skipBlanks behindArrow).dropWhile isWord)) with
          | none => simp [Matched]
          | some behindColon =>
            simp only [Option.bind_some, map_andThen_map]
            have matched := @matched_edge_of_label (String.ofList (first :: others))
              (String.ofList (first' :: others'))
            cases read : label? behindColon <;>
              simpa [read] using matched (by simp [Way.andThen, source, target]) behindColon

/-- The nodes that are found are the nodes of a text. -/
theorem nodes_found (text : List Char) :
    (matchesOf backtrack nodePattern text).map Way.node = items node? text :=
  matchesOf_eq_items (takes_oneOrMore_seq _ _) node?_shortens node?_beginsWithWord matched_node text

/-- The edges that are found are the edges of a text. -/
theorem edges_found (text : List Char) :
    (matchesOf backtrack edgePattern text).map Way.edge = items edge? text :=
  matchesOf_eq_items (takes_oneOrMore_seq _ _) edge?_shortens edge?_beginsWithWord matched_edge text

/-! ## Sections -/

/-- Whether a pattern matches a token where it is read, in one way only, and keeps nothing. -/
def Spells (pattern : Pattern) (token : List Char) : Prop :=
  ∀ text, ∃ taken, ways pattern text =
    ((afterToken? token text).map fun rest => (⟨taken, [], rest⟩ : Way)).toList

/-- A token in any letter case matches the token if its letters are read as folding reads them.
Folding differs from lower case at the long s only. -/
theorem spells_tokenPattern {letters : List Char}
    (long : letters.all fun letter => anyCase letter 'ſ' == (fold 'ſ' == lower letter)) :
    Spells (tokenPattern letters) (letters.map lower) := by
  have folds (letter : Char) (mem : letter ∈ letters) (c : Char) :
      anyCase letter c = (fold c == lower letter) := by
    by_cases here : c = 'ſ'
    · rw [here]
      exact eq_of_beq (List.all_eq_true.mp long letter mem)
    · simp [anyCase, fold, here]
  clear long
  intro text
  induction letters generalizing text with
  | nil => exact ⟨[], rfl⟩
  | cons letter letters ih =>
    have ih := ih fun other mem => folds other (List.mem_cons_of_mem letter mem)
    rw [tokenPattern, ways_one_seq]
    cases text with
    | nil => exact ⟨[], rfl⟩
    | cons c rest =>
      obtain ⟨taken, token⟩ := ih rest
      refine ⟨c :: taken, ?_⟩
      simp only [folds letter List.mem_cons_self c, token, List.map_cons, afterToken?]
      split
      · cases afterToken? (letters.map lower) rest <;> simp [Way.andThen]
      · rfl

/-- The token of the nodes is spelled by its pattern. -/
theorem spells_nodesPattern : Spells nodesPattern nodesToken :=
  spells_tokenPattern (by decide)

/-- The token of the edges is spelled by its pattern. -/
theorem spells_edgesPattern : Spells edgesPattern edgesToken :=
  spells_tokenPattern (by decide)

/-- A token and what can follow anywhere are found at the first occurrence of the token. -/
theorem kept_of_spells {first second : Pattern} {token : List Char} (spells : Spells first token)
    {keeps : List Char → List (List Char)}
    (always : ∀ rest, (ways second rest).head?.map Way.kept = some (keeps rest))
    (text : List Char) :
    (backtrack (.seq first second) text).map Way.kept = (afterFirst? token text).map keeps := by
  have here (text : List Char) : ((ways (.seq first second) text).head?).map Way.kept =
      (afterToken? token text).map keeps := by
    obtain ⟨taken, token⟩ := spells text
    simp only [ways_seq, token]
    cases afterToken? _ text with
    | none => rfl
    | some rest =>
      obtain ⟨way, tried, kept⟩ := Option.map_eq_some_iff.mp (always rest)
      simp [tried, ← kept, Way.andThen]
  induction text with
  | nil => exact here []
  | cons c rest ih =>
    have first := here (c :: rest)
    rw [backtrack, afterFirst?]
    cases read : afterToken? token (c :: rest) with
    | none =>
      rw [read, Option.map_none, Option.map_eq_none_iff] at first
      simpa [first] using ih
    | some after =>
      rw [read, Option.map_some, Option.map_eq_some_iff] at first
      obtain ⟨way, tried, kept⟩ := first
      simp [tried, kept]

/-- What precedes the first occurrence of a token is clear of it, and behind that there is either
an occurrence or nothing. -/
theorem beforeFirst_parts (token text : List Char) : ∃ here,
    text = beforeFirst token text ++ here ∧ Clear token (beforeFirst token text) here ∧
      (here = [] ∨ ∃ after, afterToken? token here = some after) := by
  induction text with
  | nil => exact ⟨[], rfl, clear_nil, .inl rfl⟩
  | cons c rest ih =>
    cases read : afterToken? token (c :: rest) with
    | some after =>
      simp only [beforeFirst, read]
      exact ⟨c :: rest, rfl, clear_nil, .inr ⟨after, read⟩⟩
    | none =>
      obtain ⟨here, parts, clear, ends⟩ := ih
      simp only [beforeFirst, read]
      exact ⟨here, by rw [List.cons_append, ← parts], clear_cons (by rw [← parts, read]) clear,
        ends⟩

/-- The section of nodes ends before the next token that opens the edges, or with the text. -/
theorem kept_of_lazy (text : List Char) :
    (ways (.seq (.group (.many false anything)) (.either edgesPattern .atEnd)) text).head?.map
      Way.kept = some [beforeFirst edgesToken text] := by
  obtain ⟨here, parts, clear, ends⟩ := beforeFirst_parts edgesToken text
  have fails (before after : List Char) (front : beforeFirst edgesToken text = before ++ after)
      (nonempty : after ≠ []) : ways (.either edgesPattern .atEnd) (after ++ here) = [] := by
    obtain ⟨taken, token⟩ := spells_edgesPattern (after ++ here)
    rw [ways_either, token, clear before after front nonempty]
    cases after with
    | nil => exact absurd rfl nonempty
    | cons c after => rfl
  have succeeds : ∃ way : Way,
      (ways (.either edgesPattern .atEnd) here).head? = some way ∧ way.kept = [] := by
    obtain ⟨taken, token⟩ := spells_edgesPattern here
    rcases ends with rfl | ⟨after, read⟩
    · exact ⟨_, rfl, rfl⟩
    · simp [ways_either, token, read]
  obtain ⟨way, tried, kept⟩ := succeeds
  have stops := @head?_ways_group_lazy_seq anything _ _ here (fun _ _ => rfl) fails way tried
  rw [← parts] at stops
  simp [stops, Way.andThen, kept]

/-- The section of edges is all that follows its token. -/
theorem kept_of_greedy (text : List Char) :
    (ways (.seq (.group (.many true anything)) .atEnd) text).head?.map Way.kept = some [text] := by
  have all : text.takeWhile anything = text := by
    simpa using @takeWhile_run anything text [] (fun _ _ => rfl) (stops_nil _)
  have exhausted : text.dropWhile anything = [] := by
    simpa using @dropWhile_run anything text [] (fun _ _ => rfl) (stops_nil _)
  rw [ways_group_many_seq (fun c _ => refuses_atEnd c), all, exhausted]
  rfl

/-! ## Graphs -/

/-- The items in what a section keeps are those that are read off it. -/
theorem foundIn_eq {α : Type} {around item : Pattern} {made : Way → α}
    {item? : List Char → Option (α × List Char)}
    (found : ∀ text, (matchesOf backtrack item text).map made = items item? text)
    {text : List Char} {inside? : Option (List Char)}
    (kept : (backtrack around text).map Way.kept = inside?.map fun inside => [inside]) :
    foundIn backtrack around item made text = items item? (inside?.getD []) := by
  cases inside? with
  | none =>
    have missed : backtrack around text = none := by simpa using kept
    rw [foundIn, missed, Option.getD_none, items_nil]
  | some inside =>
    obtain ⟨way, taken, same⟩ := Option.map_eq_some_iff.mp kept
    simp only [foundIn, taken, same, List.getD_cons_zero, found, Option.getD_some]

/-- A search that tries the ways of the patterns in order finds in every text the graph that is
read straight on, and the token that opens the edges where it is written. -/
theorem foundGraph_eq {search : Pattern → List Char → Option Way}
    (documented : LeftmostFirst search) (text : List Char) :
    foundGraph search text = graph text ∧
      (search edgesSectionPattern text).isSome = hasEdgesToken text := by
  obtain rfl : search = backtrack :=
    funext fun pattern => funext fun text => documented.unique leftmostFirst_backtrack pattern text
  have nodes : (backtrack nodesSectionPattern text).map Way.kept =
      ((afterFirst? nodesToken text).map (beforeFirst edgesToken)).map fun inside => [inside] := by
    rw [nodesSectionPattern, kept_of_spells spells_nodesPattern kept_of_lazy, Option.map_map]
    rfl
  have edges : (backtrack edgesSectionPattern text).map Way.kept =
      (afterFirst? edgesToken text).map fun inside => [inside] :=
    kept_of_spells spells_edgesPattern kept_of_greedy text
  have inside : ((afterFirst? nodesToken text).map (beforeFirst edgesToken)).getD [] =
      nodesSection text := by
    rw [nodesSection]
    cases afterFirst? nodesToken text <;> rfl
  constructor
  · rw [foundGraph, foundIn_eq nodes_found nodes, foundIn_eq edges_found edges, inside]
    rfl
  · rw [hasEdgesToken, ← Option.isSome_map (f := Way.kept), edges, Option.isSome_map]

/-- The patterns are searched for from place to place: an edge before the nodes, a label of a blank
that is given back, a long s, and a parenthesis that nothing closes. -/
theorem foundGraph_backtrack :
    LeftmostFirst backtrack ∧
      foundGraph backtrack "EdGeſ: a->b: \n;c -> d : x y ;NODES: a(b(c) ( d()".toList =
        { nodes := [{ id := "a", label := some "b(c" }, { id := "d", label := some "" }],
          edges := [{ source := "a", target := "b", label := some "" },
            { source := "c", target := "d", label := some "x y" }] } := by
  have agrees := (foundGraph_eq leftmostFirst_backtrack
    "EdGeſ: a->b: \n;c -> d : x y ;NODES: a(b(c) ( d()".toList).1
  exact ⟨leftmostFirst_backtrack, agrees.trans (by decide +kernel)⟩

end PromptDiagram.Notation
