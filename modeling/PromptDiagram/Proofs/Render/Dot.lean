import PromptDiagram.Proofs.Render.Statements
import PromptDiagram.Render.Dot

/-!
# DOT texts tell their graphs

A DOT text says which graph it draws, as far as the graph shows: ids, captions and the ends of
edges can be read off it again, together with the direction, because quoting loses nothing. So two
texts are the same only if they draw the same, and no two ids share a token.
-/

namespace PromptDiagram.Dot

open Text

/-! ## Reading -/

/-- The text that is quoted from a place on, with its escapes undone, and what follows its closing
quotation mark. -/
def unquote? : List Char → Option (List Char × List Char)
  | [] => none
  | '"' :: rest => some ([], rest)
  | ['\\'] => none
  | '\\' :: c :: rest =>
    (unquote? rest).map fun (text, after) => ((if c == 'n' then '\n' else c) :: text, after)
  | c :: rest => (unquote? rest).map fun (text, after) => (c :: text, after)

/-- A character of a token without quotation marks. -/
def isPlain (c : Char) : Bool :=
  isWord c || c == '-'

/-- The id of the token at the beginning of a text, and what follows the token. -/
def token? (text : List Char) : Option (String × List Char) :=
  match text with
  | '"' :: rest => (unquote? rest).map fun (id, after) => (String.ofList id, after)
  | _ =>
    match text.takeWhile isPlain with
    | [] => none
    | id => some (String.ofList id, text.dropWhile isPlain)

/-- The label of an attribute list, and what follows the list. -/
def label? (text : List Char) : Option (String × List Char) := do
  let rest ← afterMark? " [label=\"" text
  let (label, rest) ← unquote? rest
  let rest ← afterMark? "]" rest
  return (String.ofList label, rest)

/-- The reader of a node: its id and its caption. -/
def node? (line : List Char) : Option Declaration := do
  let rest ← afterMark? "  " line
  let (id, rest) ← token? rest
  let (caption, rest) ← label? rest
  let rest ← afterMark? ";" rest
  atEnd? ⟨id, caption⟩ rest

/-- The caption of an edge, if it has one, and what follows it. -/
def edgeLabel? (text : List Char) : Option String × List Char :=
  match label? text with
  | some (caption, rest) => (some caption, rest)
  | none => (none, text)

/-- The reader of an edge: its ends and its caption. -/
def edge? (line : List Char) : Option Link := do
  let rest ← afterMark? "  " line
  let (source, rest) ← token? rest
  let rest ← afterMark? " -> " rest
  let (target, rest) ← token? rest
  let (caption, rest) := edgeLabel? rest
  let rest ← afterMark? ";" rest
  atEnd? ⟨source, target, caption⟩ rest

/-- The directions by the lines that name them. -/
def directions : List (String × Direction) :=
  [("  rankdir=TB;", .down), ("  rankdir=LR;", .right), ("  rankdir=BT;", .up),
    ("  rankdir=RL;", .left)]

/-- The reader of DOT texts. -/
def graph? (text : String) : Option (Direction × List (Statement Declaration)) :=
  match textLines text with
  | "digraph G \x7b" :: line :: "  node [shape=box];" :: lines => do
    let direction ← directions.lookup line
    if lines.getLast? = some "\x7d" then
      let statements ← readEach (statement? node? edge?) lines.dropLast
      return (direction, statements)
    else none
  | _ => none

/-- The ids of the nodes with their captions. -/
def captionedNodes (graph : Graph) : List (String × String) :=
  graph.nodes.map fun node => (node.id, node.shownText)

/-- The ends of the edges with their captions. -/
def captionedEdges (graph : Graph) : List (String × String × Option String) :=
  graph.edges.map fun edge => (edge.source, edge.target, edge.shownText?)

/-- What a graph shows: its nodes, then its edges. -/
def shown (graph : Graph) : List (Statement Declaration) :=
  graph.nodes.map (fun node => .declares ⟨node.id, node.shownText⟩) ++
    graph.edges.map fun edge => .links ⟨edge.source, edge.target, edge.shownText?⟩

/-! ## Tokens -/

/-- A text between quotation marks that holds no other one but behind a backslash, and no backslash
that would take the closing one in. -/
def IsClosed : List Char → Prop
  | [] => True
  | ['\\'] => False
  | '\\' :: _ :: rest => IsClosed rest
  | c :: rest => c ≠ '"' ∧ IsClosed rest

/-- The tokens that may stand for an id: a word that is no keyword in any letter case, digits with
or without a minus sign, and a text in quotation marks. -/
inductive IsToken : List Char → Prop
  | word {first : Char} {rest : List Char} :
      isWordStart first = true → (∀ c ∈ rest, isWord c = true) →
      (∀ keyword ∈ ["node", "edge", "graph", "digraph", "subgraph", "strict"],
        sameIgnoringCase keyword.toList (first :: rest) = false) →
      IsToken (first :: rest)
  | digits {digits : List Char} :
      digits ≠ [] → (∀ c ∈ digits, isDigit c = true) → IsToken digits
  | negative {digits : List Char} :
      digits ≠ [] → (∀ c ∈ digits, isDigit c = true) → IsToken ('-' :: digits)
  | quoted {content : List Char} : IsClosed content → IsToken ('"' :: (content ++ ['"']))

/-- The characters of a text in quotation marks. -/
theorem toList_quoted (text : String) :
    (quoted text).toList = '"' :: (text.toList.flatMap (fun c => (escape c).toList) ++ ['"']) := by
  simp [quoted, toList_escapeWith]

/-- An escaped character is one of a pair behind a backslash, or stands for itself. -/
theorem escape_cases (c : Char) :
    (∃ d, (escape c).toList = ['\\', d] ∧ (if d == 'n' then '\n' else d) = c) ∨
      (escape c).toList = [c] ∧ c ≠ '\\' ∧ c ≠ '"' := by
  unfold escape
  split
  · exact .inl ⟨'\\', by simp_all⟩
  split
  · exact .inl ⟨'"', by simp_all⟩
  split
  · exact .inl ⟨'n', by simp_all⟩
  · exact .inr (by simp_all)

/-- A text in quotation marks is read back. -/
theorem unquote?_escaped (text rest : List Char) :
    unquote? (text.flatMap (fun c => (escape c).toList) ++ '"' :: rest) = some (text, rest) := by
  induction text with
  | nil => simp [unquote?]
  | cons c text ih =>
    rw [List.flatMap_cons, List.append_assoc]
    rcases escape_cases c with ⟨d, pair, meant⟩ | ⟨alone, backslash, mark⟩
    · rw [pair, List.cons_append, List.cons_append, List.nil_append, unquote?, ih,
        Option.map_some, meant]
    · rw [alone, List.singleton_append, unquote?, ih, Option.map_some]
      all_goals simp_all

/-- Escaped texts are closed. -/
theorem isClosed_escaped (text : List Char) :
    IsClosed (text.flatMap fun c => (escape c).toList) := by
  induction text with
  | nil => trivial
  | cons c text ih =>
    rw [List.flatMap_cons]
    rcases escape_cases c with ⟨d, pair, -⟩ | ⟨alone, backslash, mark⟩
    · rw [pair]
      exact ih
    · rw [alone, List.singleton_append, IsClosed]
      · exact ⟨mark, ih⟩
      all_goals simp_all

/-- A numeral is made of digits, with or without a minus sign before them. -/
theorem isNumeral_cases {text : List Char} (numeral : isNumeral text = true) :
    ∃ digits, digits ≠ [] ∧ (∀ c ∈ digits, isDigit c = true) ∧
      (text = digits ∨ text = '-' :: digits) := by
  unfold isNumeral at numeral
  split at numeral
  · rename_i digits
    exact ⟨digits, by simp_all, by simp_all, .inr rfl⟩
  · exact ⟨text, by simp_all, by simp_all, .inl rfl⟩

/-- An id is written as a token. -/
theorem isToken_token (id : String) : IsToken (token id).toList := by
  unfold token
  split
  · rename_i plain
    rcases Bool.or_eq_true_iff.mp plain with bare | numeral
    · obtain ⟨identifier, free⟩ : isIdentifier id.toList = true ∧
          ∀ keyword ∈ keywords, sameIgnoringCase keyword.toList id.toList = false := by
        simpa [isBareToken] using bare
      cases chars : id.toList with
      | nil => simp [chars, isIdentifier] at identifier
      | cons first rest =>
        rw [chars] at free
        obtain ⟨start, words⟩ : isWordStart first = true ∧ ∀ c ∈ rest, isWord c = true := by
          simpa [chars, isIdentifier] using identifier
        exact .word start words free
    · obtain ⟨digits, nonempty, within, same | same⟩ := isNumeral_cases numeral
      · exact same ▸ .digits nonempty within
      · exact same ▸ .negative nonempty within
  · rw [toList_quoted]
    exact .quoted (isClosed_escaped id.toList)

/-- The beginning of a word is a character of one. -/
theorem isPlain_of_isWordStart {c : Char} (start : isWordStart c = true) : isPlain c = true := by
  simp only [isWordStart, Bool.or_eq_true] at start
  rcases start with letter | underscore
  · simp [isPlain, isWord, letter]
  · simp [isPlain, isWord, underscore]

/-- A token begins with a quotation mark, or is made of plain characters. -/
theorem token_cases (id : String) :
    (token id).toList = (quoted id).toList ∨
      (token id = id ∧ id.toList ≠ [] ∧ ∀ c ∈ id.toList, isPlain c = true) := by
  have digits {text : List Char} (within : ∀ c ∈ text, isDigit c = true) :
      ∀ c ∈ text, isPlain c = true := fun c mem => by simp [isPlain, isWord, within c mem]
  have written := isToken_token id
  unfold token at written ⊢
  split
  · rename_i plain
    rw [if_pos plain] at written
    refine .inr ⟨rfl, ?_⟩
    generalize id.toList = text at plain written
    cases written with
    | word start words =>
      refine ⟨by simp, fun c mem => ?_⟩
      rcases List.mem_cons.mp mem with rfl | mem
      · exact isPlain_of_isWordStart start
      · simp [isPlain, words c mem]
    | digits nonempty within => exact ⟨nonempty, digits within⟩
    | negative nonempty within =>
      refine ⟨by simp, fun c mem => ?_⟩
      rcases List.mem_cons.mp mem with rfl | mem
      · decide
      · exact digits within c mem
    | quoted =>
      -- A text that begins with a quotation mark is neither a word nor a numeral.
      simp [isBareToken, isIdentifier, isWordStart, isLetter, isNumeral, isDigit] at plain
  · exact .inl rfl

/-- A token is read back where what follows does not carry it on. -/
theorem token?_token (id : String) {rest : List Char} (stops : Stops isPlain rest) :
    token? ((token id).toList ++ rest) = some (id, rest) := by
  rcases token_cases id with quoted | ⟨same, nonempty, plain⟩
  · rw [quoted, toList_quoted, List.cons_append, List.append_assoc, List.singleton_append, token?,
      unquote?_escaped]
    simp
  · rw [same]
    have taken := takeWhile_run plain stops
    have left := dropWhile_run plain stops
    cases chars : id.toList with
    | nil => exact absurd chars nonempty
    | cons c others =>
      have unquoted : c ≠ '"' := by
        rintro rfl
        exact absurd (plain '"' (by simp [chars])) (by decide)
      have name : String.ofList (c :: others) = id := by rw [← chars, String.ofList_toList]
      rw [chars, List.cons_append] at taken left
      simp [token?, taken, left, unquoted, name]

/-- Ids that have the same token are the same. -/
theorem token_injective {id other : String} (same : token id = token other) : id = other := by
  have read := token?_token id (stops_nil isPlain)
  rw [same, token?_token other (stops_nil isPlain)] at read
  simpa using read.symm

/-! ## Statements -/

/-- A label is read back. -/
theorem label?_label (text : String) (rest : List Char) :
    label? ((label text).toList ++ rest) = some (text, rest) := by
  have written : (label text).toList ++ rest = " [label=\"".toList ++
      (text.toList.flatMap (fun c => (escape c).toList) ++ '"' :: ("]".toList ++ rest)) := by
    simp [label, toList_quoted]
  simp only [label?, written, afterMark?_append, unquote?_escaped, Option.bind_eq_bind,
    Option.bind_some, String.ofList_toList]
  rfl

/-- The caption of an edge is read back where there is one. -/
theorem edgeLabel?_label (caption : Option String) :
    edgeLabel? (((caption.map label).getD "").toList ++ (";".toList ++ [])) =
      (caption, ";".toList ++ []) := by
  cases caption with
  | none =>
    have unlabelled : label? (";".toList ++ []) = none := rfl
    simp only [edgeLabel?, Option.map_none, Option.getD_none, String.toList_empty,
      List.nil_append, unlabelled]
  | some caption =>
    simp only [edgeLabel?, Option.map_some, Option.getD_some, label?_label]

/-- No token goes on with a label. -/
theorem stops_label (text : String) (rest : List Char) :
    Stops isPlain ((label text).toList ++ rest) := by
  have written : (label text).toList ++ rest =
      " [label=".toList ++ ((quoted text).toList ++ "]".toList ++ rest) := by
    simp [label]
  rw [written]
  exact Stops.append (by decide) (by decide) _

/-- The line of a node is made of its id and the text that has to show. -/
theorem node_eq : node = fun n => "  " ++ token n.id ++ label n.shownText ++ ";" := by
  funext n
  rw [node, n.caption_eq]

/-- The line of an edge is made of its ends and the text that has to show, if there is one. -/
theorem edge_eq : edge = fun e => "  " ++ token e.source ++ " -> " ++ token e.target ++
    (e.shownText?.map label).getD "" ++ ";" := by
  funext e
  rw [edge, e.caption?_eq]

/-- A node is read back. -/
theorem node?_node (n : Node) : node? (node n).toList = some ⟨n.id, n.shownText⟩ := by
  have line : (node n).toList = "  ".toList ++ ((token n.id).toList ++
      ((label n.shownText).toList ++ (";".toList ++ []))) := by
    simp [node_eq]
  simp only [node?, line, afterMark?_append, token?_token _ (stops_label _ _), label?_label,
    Option.bind_eq_bind, Option.bind_some, atEnd?]

/-- The characters of an edge. -/
theorem toList_edge (e : Edge) : (edge e).toList = "  ".toList ++ ((token e.source).toList ++
    (" -> ".toList ++ ((token e.target).toList ++
      (((e.shownText?.map label).getD "").toList ++ (";".toList ++ []))))) := by
  simp [edge_eq]

/-- What begins with an arrow carries no token on. -/
theorem stops_arrow (rest : List Char) : Stops isPlain (" -> ".toList ++ rest) :=
  Stops.append (by decide) (by decide) rest

/-- An edge is read back. -/
theorem edge?_edge (e : Edge) :
    edge? (edge e).toList = some ⟨e.source, e.target, e.shownText?⟩ := by
  have stops : Stops isPlain
      (((e.shownText?.map label).getD "").toList ++ (";".toList ++ [])) := by
    cases e.shownText? with
    | none => decide
    | some caption => exact stops_label _ _
  simp only [edge?, toList_edge, afterMark?_append, token?_token _ (stops_arrow _),
    token?_token _ stops, edgeLabel?_label, Option.bind_eq_bind, Option.bind_some, atEnd?]

/-- No edge reads like a node. -/
theorem node?_edge (e : Edge) : node? (edge e).toList = none := by
  have other (rest : List Char) : label? (" -> ".toList ++ rest) = none := rfl
  simp only [node?, toList_edge, afterMark?_append, token?_token _ (stops_arrow _), other,
    Option.bind_eq_bind, Option.bind_some, Option.bind_none]

/-! ## Texts -/

/-- No character is escaped by a line feed. -/
theorem isLine_escape (c : Char) : IsLine (escape c) := by
  unfold escape
  split
  · decide
  split
  · decide
  split
  · decide
  · rename_i other
    simpa [IsLine] using Ne.symm (by simpa using other)

/-- A text in quotation marks is a line. -/
theorem isLine_quoted (text : String) : IsLine (quoted text) := by
  simp only [quoted, isLine_append]
  exact ⟨⟨by decide, isLine_escapeWith isLine_escape text⟩, by decide⟩

/-- A token is a line. -/
theorem isLine_token (id : String) : IsLine (token id) := by
  rcases token_cases id with quoted | ⟨same, -, plain⟩
  · rw [IsLine, quoted]
    exact isLine_quoted id
  · rw [same]
    intro mem
    exact absurd (plain '\n' mem) (by decide)

/-- A label is a line. -/
theorem isLine_label (text : String) : IsLine (label text) := by
  simp only [label, isLine_append]
  exact ⟨⟨by decide, isLine_quoted text⟩, by decide⟩

/-- A node is a line. -/
theorem isLine_node (n : Node) : IsLine (node n) := by
  simp only [node, isLine_append]
  exact ⟨⟨⟨by decide, isLine_token _⟩, isLine_label _⟩, by decide⟩

/-- An edge is a line. -/
theorem isLine_edge (e : Edge) : IsLine (edge e) := by
  have caption : IsLine ((e.caption?.map label).getD "") := by
    cases e.caption? with
    | none => decide
    | some caption => exact isLine_label caption
  simp only [edge, isLine_append]
  exact ⟨⟨⟨⟨⟨by decide, isLine_token _⟩, by decide⟩, isLine_token _⟩, caption⟩, by decide⟩

/-- The lines of a DOT text are its statements. -/
theorem textLines_render (graph : Graph) (direction : Direction) :
    textLines (render graph direction) = lines graph direction := by
  apply textLines_joinLines (by simp [lines])
  intro line mem
  simp only [lines, List.mem_append, List.mem_map, List.mem_singleton] at mem
  rcases mem with ((opened | ⟨n, declared, rfl⟩) | ⟨e, linked, rfl⟩) | rfl
  · revert line
    cases direction <;> decide
  · exact isLine_node n
  · exact isLine_edge e
  · decide

/-- The direction of a DOT text is read back. -/
theorem lookup_directions (direction : Direction) :
    directions.lookup ("  rankdir=" ++ rankDirection direction ++ ";") = some direction := by
  cases direction <;> decide

/-- A DOT text is read back. -/
theorem graph?_render (graph : Graph) (direction : Direction) :
    graph? (render graph direction) = some (direction, shown graph) := by
  have statements := readEach_statements
    (fun n (_ : n ∈ graph.nodes) => node?_node n)
    (fun e (_ : e ∈ graph.edges) => node?_edge e)
    (fun e _ => edge?_edge e)
  simp only [graph?, textLines_render, lines, List.cons_append, List.nil_append,
    lookup_directions, List.getLast?_append, List.getLast?_singleton, Option.some_or, if_true,
    List.dropLast_concat, statements, Option.bind_eq_bind, Option.bind_some]
  rfl

/-! ## Faithfulness -/

/-- What a graph shows tells its nodes and its edges. -/
theorem captioned_of_shown {graph graph' : Graph} (same : shown graph = shown graph') :
    captionedNodes graph = captionedNodes graph' ∧
      captionedEdges graph = captionedEdges graph' := by
  have declared := congrArg (List.filterMap Statement.declared?) same
  have linked := congrArg (List.filterMap Statement.link?) same
  simp only [shown, List.filterMap_append, List.filterMap_map, Function.comp_def,
    Statement.declared?, Statement.link?, List.filterMap_none, List.append_nil,
    List.nil_append] at declared linked
  have nodes := congrArg (List.map fun d : Declaration => (d.name, d.caption)) declared
  have edges := congrArg (List.map fun l : Link => (l.source, l.target, l.caption)) linked
  simp only [List.filterMap_eq_map', List.map_map, Function.comp_def] at nodes edges
  exact ⟨nodes, edges⟩

/-- The lines of a DOT text are made of what the graph shows. -/
theorem lines_eq (graph : Graph) (direction : Direction) : lines graph direction =
    ["digraph G \x7b", "  rankdir=" ++ rankDirection direction ++ ";", "  node [shape=box];"] ++
      (captionedNodes graph).map (fun (id, caption) => "  " ++ token id ++ label caption ++ ";") ++
      (captionedEdges graph).map (fun (source, target, caption) =>
        "  " ++ token source ++ " -> " ++ token target ++ (caption.map label).getD "" ++ ";") ++
      ["\x7d"] := by
  rw [lines, node_eq, edge_eq, captionedNodes, captionedEdges, List.map_map, List.map_map]
  rfl

/-- A DOT text tells the direction, the ids and captions of the nodes and the ends and captions of
the edges, each in their order, and depends on nothing else. Every id has a token of its own: a word
that is no keyword, digits with or without a minus sign, or a text in quotation marks with no
other quotation mark that is not escaped. -/
theorem render_faithful (graph graph' : Graph) (direction direction' : Direction) :
    (render graph direction = render graph' direction' ↔
      direction = direction' ∧ captionedNodes graph = captionedNodes graph' ∧
        captionedEdges graph = captionedEdges graph') ∧
    (∀ id other : String, id ≠ other → token id ≠ token other) ∧
    ∀ id : String, IsToken (token id).toList := by
  refine ⟨⟨fun same => ?_, ?_⟩, fun id other differ same => differ (token_injective same),
    isToken_token⟩
  · have read := graph?_render graph direction
    rw [same, graph?_render graph' direction'] at read
    obtain ⟨directions, shown⟩ : direction' = direction ∧ shown graph' = shown graph := by
      simpa using read
    exact ⟨directions.symm, captioned_of_shown shown.symm⟩
  · rintro ⟨rfl, nodes, edges⟩
    rw [render, render, lines_eq, lines_eq, nodes, edges]

end PromptDiagram.Dot
