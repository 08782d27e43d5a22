import PromptDiagram.Proofs.Render.Scanning

/-!
# Statements of drawings

Whoever knows a notation and nothing of the graph reads the statements of a drawing off its lines.
What comes out are the statements that were written, one for each line and in their order, with
every caption as it was escaped. So no id, label or kind adds, removes, splits or joins a
statement, and no quoted text ends before its closing quotation mark.
-/

namespace PromptDiagram

open Text
open Notation (word?)

/-- A statement that declares something of a kind, or one that links two identifiers. -/
inductive Statement (δ : Type) where
  | declares (declared : δ)
  | links (link : Link)
  deriving DecidableEq

/-- What a statement declares, if it declares something. -/
def Statement.declared? {δ : Type} : Statement δ → Option δ
  | .declares declared => some declared
  | .links _ => none

/-- The link of a statement, if it is one. -/
def Statement.link? {δ : Type} : Statement δ → Option Link
  | .declares _ => none
  | .links link => some link

/-- The reader of a statement, from readers of its two kinds. -/
def statement? {δ : Type} (declared? : List Char → Option δ) (link? : List Char → Option Link)
    (line : List Char) : Option (Statement δ) :=
  match declared? line with
  | some declared => some (.declares declared)
  | none => (link? line).map .links

/-- Something that is read off a line, if the line ends with it. -/
def atEnd? {α : Type} (read : α) : List Char → Option α
  | [] => some read
  | _ :: _ => none

/-! ## Readers of Mermaid -/

namespace Mermaid

/-- The reader of a declaration in a flowchart. -/
def declaration? (line : List Char) : Option Declaration := do
  let rest ← afterMark? "    " line
  let (name, rest) ← word? rest
  let rest ← afterMark? "[\"" rest
  let (caption, rest) ← upToQuote? rest
  let rest ← afterMark? "]" rest
  atEnd? ⟨name, caption⟩ rest

/-- The caption of a link in a flowchart, if it has one, up to the link's target. -/
def linkCaption? (text : List Char) : Option (Option String × List Char) :=
  match afterMark? "|\"" text with
  | some inside => do
    let (caption, rest) ← upToQuote? inside
    let rest ← afterMark? "| " rest
    return (some caption, rest)
  | none => do
    let rest ← afterMark? " " text
    return (none, rest)

/-- The reader of a link in a flowchart. -/
def link? (line : List Char) : Option Link := do
  let rest ← afterMark? "    " line
  let (source, rest) ← word? rest
  let rest ← afterMark? " -->" rest
  let (caption, rest) ← linkCaption? rest
  let (target, rest) ← word? rest
  atEnd? ⟨source, target, caption⟩ rest

/-- The directions by the first lines of flowcharts. -/
def directions : List (String × Direction) :=
  [("flowchart TD", .down), ("flowchart LR", .right), ("flowchart BT", .up),
    ("flowchart RL", .left)]

/-- The reader of flowcharts. -/
def flowchart? (text : String) : Option (Direction × List (Statement Declaration)) :=
  match textLines text with
  | [] => none
  | first :: lines => do
    let direction ← directions.lookup first
    let statements ← readEach (statement? declaration? link?) lines
    return (direction, statements)

/-- The reader of an entity. -/
def entity? (line : List Char) : Option String := do
  let rest ← afterMark? "    " line
  let (name, rest) ← word? rest
  let rest ← afterMark? " \x7b \x7d" rest
  atEnd? name rest

/-- The reader of a relation between entities. -/
def relation? (line : List Char) : Option Link := do
  let rest ← afterMark? "    " line
  let (source, rest) ← word? rest
  let rest ← afterMark? " ||--o\x7b " rest
  let (target, rest) ← word? rest
  let rest ← afterMark? " : \"" rest
  let (caption, rest) ← upToQuote? rest
  atEnd? ⟨source, target, some caption⟩ rest

/-- The reader of entity diagrams. -/
def entityDiagram? (text : String) : Option (List (Statement String)) :=
  match textLines text with
  | "erDiagram" :: lines => readEach (statement? entity? relation?) lines
  | _ => none

end Mermaid

/-! ## Readers of PlantUML -/

namespace PlantUml

/-- The reader of a declaration. -/
def declaration? (line : List Char) : Option Declaration := do
  let (keyword, rest) ← word? line
  if keyword = "rectangle" then
    let rest ← afterMark? " \"" rest
    let (caption, rest) ← upToQuote? rest
    let rest ← afterMark? " as " rest
    let (name, rest) ← word? rest
    atEnd? ⟨name, caption⟩ rest
  else none

/-- The reader of a link. A caption has no quotation marks around it, nor any within. -/
def link? (line : List Char) : Option Link := do
  let (source, rest) ← word? line
  let rest ← afterMark? " --> " rest
  let (target, rest) ← word? rest
  match afterMark? " : " rest with
  | none => atEnd? ⟨source, target, none⟩ rest
  | some caption =>
    if '"' ∈ caption then none else some ⟨source, target, some (String.ofList caption)⟩

/-- The reader of PlantUML texts. -/
def drawing? (text : String) : Option (List (Statement Declaration)) :=
  match textLines text with
  | "@startuml" :: "skinparam shadowing false" :: "skinparam rectangleBorderRoundCorner 12" ::
      lines =>
    if lines.getLast? = some "@enduml" then readEach (statement? declaration? link?) lines.dropLast
    else none
  | _ => none

end PlantUml

/-! ## What is written -/

/-- The ends of edges that are neither nodes nor identifiers, in order of first use. -/
def Graph.dangling (graph : Graph) : List String :=
  (graph.edges.flatMap fun edge => [edge.source, edge.target]).eraseDups.filter fun id =>
    !(graph.nodes.map Node.id).contains id && !isBare id

/-- A text with something else written for each quotation mark in it and for each line feed. -/
def replacing (mark feed : String) (text : String) : String :=
  String.ofList (text.toList.flatMap fun c =>
    if c = '"' then mark.toList else if c = '\n' then feed.toList else [c])

/-- The statements that draw a graph in a notation that escapes captions in some way: one for each
node, one for each end of an edge that would not show otherwise, and one for each edge. -/
def Graph.statements (graph : Graph) (escaped : String → String) : List (Statement Declaration) :=
  graph.nodes.map (fun node => .declares ⟨graph.identifier node.id, escaped node.shownText⟩) ++
    graph.dangling.map (fun id => .declares ⟨graph.identifier id, escaped id⟩) ++
    graph.edges.map fun edge => .links
      ⟨graph.identifier edge.source, graph.identifier edge.target, edge.shownText?.map escaped⟩

/-- The statements that draw a graph as entities and their relations. -/
def Graph.entityStatements (graph : Graph) (escaped : String → String) :
    List (Statement String) :=
  (graph.nodes.map Node.id).eraseDups.map (fun id => .declares (graph.identifier id)) ++
    graph.edges.map fun edge => .links
      ⟨graph.identifier edge.source, graph.identifier edge.target,
        some (escaped edge.shownRelation)⟩

/-! ## Statements are read back -/

/-- A text in which only quotation marks and line feeds are escaped has them replaced. -/
theorem escapeWith_replaced (mark feed : String) :
    escapeWith (fun c => if c == '"' then mark else if c == '\n' then feed else c.toString) =
      replacing mark feed := by
  funext text
  unfold escapeWith replacing
  congr 2
  funext c
  by_cases quotes : c = '"'
  · simp [quotes]
  · by_cases breaks : c = '\n' <;> simp [quotes, breaks]

/-- The statements of two kinds are read back from the lines that they were written in, where no
line of a link reads like a declaration. -/
theorem readEach_statements {α β δ : Type} {declared? : List Char → Option δ}
    {link? : List Char → Option Link} {declare : α → String} {made : α → δ} {link : β → String}
    {made' : β → Link} {declared : List α} {links : List β}
    (declares : ∀ a ∈ declared, declared? (declare a).toList = some (made a))
    (apart : ∀ l ∈ links, declared? (link l).toList = none)
    (linked : ∀ l ∈ links, link? (link l).toList = some (made' l)) :
    readEach (statement? declared? link?) (declared.map declare ++ links.map link) =
      some (declared.map (fun a => .declares (made a)) ++
        links.map fun l => .links (made' l)) := by
  apply readEach_append <;> apply readEach_map
  · intro a mem
    simp [statement?, declares a mem]
  · intro l mem
    simp [statement?, apart l mem, linked l mem]

namespace Mermaid

/-- A caption as it is escaped. -/
abbrev escaped (text : String) : String :=
  escapeWith escape text

/-- A caption is escaped by a named character for a quotation mark and a tag for a line feed. -/
theorem escaped_eq : escaped = replacing "#quot;" "<br/>" :=
  escapeWith_replaced "#quot;" "<br/>"

/-- No quotation mark is left in a caption. -/
theorem isUnquoted_escaped (text : String) : IsUnquoted (escaped text) :=
  not_mem_escapeWith (not_mem_replaced (.inl rfl) (by decide) (by decide)) text

/-- A declaration is read back. -/
theorem declaration?_declaration {d : Declaration} (bare : isBare d.name = true) :
    declaration? (declaration d).toList = some ⟨d.name, escaped d.caption⟩ := by
  have line : (declaration d).toList = "    ".toList ++ (d.name.toList ++ ("[\"".toList ++
      ((escaped d.caption).toList ++ '"' :: ("]".toList ++ [])))) := by
    simp [declaration, statement, quoted]
  have stops (rest : List Char) : Stops isWord ("[\"".toList ++ rest) :=
    Stops.append (by decide) (by decide) rest
  simp only [declaration?, line, afterMark?_append, word?_identifier bare (stops _),
    upToQuote?_append (isUnquoted_escaped _), Option.bind_eq_bind, Option.bind_some, atEnd?]

/-- What stands between the arrow of a link and its target. -/
def linkCaption : Option String → List Char
  | none => " ".toList
  | some caption => "|\"".toList ++ ((escaped caption).toList ++ '"' :: "| ".toList)

/-- The characters of a link. -/
theorem toList_link (l : Link) : (link l).toList = "    ".toList ++ (l.source.toList ++
    (" -->".toList ++ (linkCaption l.caption ++ (l.target.toList ++ [])))) := by
  unfold link
  split
  · rename_i caption captioned
    simp [captioned, linkCaption, statement, quoted]
  · rename_i plain
    simp [plain, linkCaption, statement]

/-- A caption is read back up to the target behind it. -/
theorem linkCaption?_linkCaption (caption : Option String) (rest : List Char) :
    linkCaption? (linkCaption caption ++ rest) = some (caption.map escaped, rest) := by
  cases caption with
  | none =>
    have other : afterMark? "|\"" (" ".toList ++ rest) = none := rfl
    simp only [linkCaption, linkCaption?, other, afterMark?_append, Option.bind_eq_bind,
      Option.bind_some]
    rfl
  | some caption =>
    simp only [linkCaption, linkCaption?, List.append_assoc, List.cons_append, afterMark?_append,
      upToQuote?_append (isUnquoted_escaped _), Option.bind_eq_bind, Option.bind_some]
    rfl

/-- What begins with an arrow carries no identifier on. -/
theorem stops_arrow (rest : List Char) : Stops isWord (" -->".toList ++ rest) :=
  Stops.append (by decide) (by decide) rest

/-- A link is read back. -/
theorem link?_link {l : Link} (bare : isBare l.source = true ∧ isBare l.target = true) :
    link? (link l).toList = some ⟨l.source, l.target, l.caption.map escaped⟩ := by
  simp only [link?, toList_link, afterMark?_append, word?_identifier bare.1 (stops_arrow _),
    linkCaption?_linkCaption, word?_identifier bare.2 (stops_nil isWord), Option.bind_eq_bind,
    Option.bind_some, atEnd?]

/-- No link reads like a declaration. -/
theorem declaration?_link {l : Link} (bare : isBare l.source = true) :
    declaration? (link l).toList = none := by
  have other (rest : List Char) : afterMark? "[\"" (" -->".toList ++ rest) = none := rfl
  simp only [declaration?, toList_link, afterMark?_append, word?_identifier bare (stops_arrow _),
    other, Option.bind_eq_bind, Option.bind_some, Option.bind_none]

/-- An entity is read back. -/
theorem entity?_entity {name : String} (bare : isBare name = true) :
    entity? (entity name).toList = some name := by
  have line : (entity name).toList =
      "    ".toList ++ (name.toList ++ (" \x7b \x7d".toList ++ [])) := by
    simp [entity, statement]
  have stops : Stops isWord (" \x7b \x7d".toList ++ []) := by decide
  simp only [entity?, line, afterMark?_append, word?_identifier bare stops, Option.bind_eq_bind,
    Option.bind_some, atEnd?]

/-- The characters of a relation. -/
theorem toList_relation (l : Link) : (relation l).toList = "    ".toList ++ (l.source.toList ++
    (" ||--o\x7b ".toList ++ (l.target.toList ++ (" : \"".toList ++
      ((escaped (l.caption.getD "")).toList ++ '"' :: []))))) := by
  simp [relation, statement, quoted]

/-- What begins with the mark of a relation carries no identifier on. -/
theorem stops_relation (rest : List Char) : Stops isWord (" ||--o\x7b ".toList ++ rest) :=
  Stops.append (by decide) (by decide) rest

/-- A relation is read back. -/
theorem relation?_relation {l : Link} (bare : isBare l.source = true ∧ isBare l.target = true) :
    relation? (relation l).toList =
      some ⟨l.source, l.target, some (escaped (l.caption.getD ""))⟩ := by
  have stops (rest : List Char) : Stops isWord (" : \"".toList ++ rest) :=
    Stops.append (by decide) (by decide) rest
  simp only [relation?, toList_relation, afterMark?_append,
    word?_identifier bare.1 (stops_relation _), word?_identifier bare.2 (stops _),
    upToQuote?_append (isUnquoted_escaped _), Option.bind_eq_bind, Option.bind_some, atEnd?]

/-- No relation reads like an entity. -/
theorem entity?_relation {l : Link} (bare : isBare l.source = true) :
    entity? (relation l).toList = none := by
  have other (rest : List Char) :
      afterMark? " \x7b \x7d" (" ||--o\x7b ".toList ++ rest) = none := rfl
  simp only [entity?, toList_relation, afterMark?_append,
    word?_identifier bare (stops_relation _), other, Option.bind_eq_bind, Option.bind_some,
    Option.bind_none]

/-- The direction of a flowchart is read back. -/
theorem lookup_directions (direction : Direction) :
    directions.lookup ("flowchart " ++ direction.name) = some direction := by
  cases direction <;> decide

end Mermaid

namespace PlantUml

/-- A caption as it is escaped. -/
abbrev escaped (text : String) : String :=
  escapeWith escape text

/-- A caption is escaped by a reference for a quotation mark and a backslash for a line feed. -/
theorem escaped_eq : escaped = replacing "&#34;" "\\n" :=
  escapeWith_replaced "&#34;" "\\n"

/-- No quotation mark is left in a caption. -/
theorem isUnquoted_escaped (text : String) : IsUnquoted (escaped text) :=
  not_mem_escapeWith (not_mem_replaced (.inl rfl) (by decide) (by decide)) text

/-- A declaration is read back. -/
theorem declaration?_declaration {d : Declaration} (bare : isBare d.name = true) :
    declaration? (declaration d).toList = some ⟨d.name, escaped d.caption⟩ := by
  have line : (declaration d).toList = "rectangle".toList ++ (" \"".toList ++
      ((escaped d.caption).toList ++ '"' :: (" as ".toList ++ (d.name.toList ++ [])))) := by
    simp [declaration]
  have keyword : isBare "rectangle" = true := by decide
  have stops (rest : List Char) : Stops isWord (" \"".toList ++ rest) :=
    Stops.append (by decide) (by decide) rest
  simp only [declaration?, line, word?_identifier keyword (stops _), if_true, afterMark?_append,
    upToQuote?_append (isUnquoted_escaped _), word?_identifier bare (stops_nil isWord),
    Option.bind_eq_bind, Option.bind_some, atEnd?]

/-- What stands behind the target of a link. -/
def linkCaption : Option String → List Char
  | none => []
  | some caption => " : ".toList ++ (escaped caption).toList

/-- The characters of a link. -/
theorem toList_link (l : Link) : (link l).toList =
    l.source.toList ++ (" --> ".toList ++ (l.target.toList ++ linkCaption l.caption)) := by
  unfold link
  dsimp only
  split
  · rename_i caption captioned
    simp [captioned, linkCaption]
  · rename_i plain
    simp [plain, linkCaption]

/-- What begins with an arrow carries no identifier on. -/
theorem stops_arrow (rest : List Char) : Stops isWord (" --> ".toList ++ rest) :=
  Stops.append (by decide) (by decide) rest

/-- A link is read back. -/
theorem link?_link {l : Link} (bare : isBare l.source = true ∧ isBare l.target = true) :
    link? (link l).toList = some ⟨l.source, l.target, l.caption.map escaped⟩ := by
  cases captioned : l.caption with
  | none =>
    have uncaptioned : afterMark? " : " [] = none := rfl
    simp only [link?, toList_link, captioned, linkCaption, afterMark?_append,
      word?_identifier bare.1 (stops_arrow _), word?_identifier bare.2 (stops_nil isWord),
      uncaptioned, Option.bind_eq_bind, Option.bind_some, atEnd?]
    rfl
  | some caption =>
    have stops (rest : List Char) : Stops isWord (" : ".toList ++ rest) :=
      Stops.append (by decide) (by decide) rest
    have unquoted : '"' ∉ (escaped caption).toList := isUnquoted_escaped caption
    simp only [link?, toList_link, captioned, linkCaption, afterMark?_append,
      word?_identifier bare.1 (stops_arrow _), word?_identifier bare.2 (stops _), if_neg unquoted,
      Option.bind_eq_bind, Option.bind_some, String.ofList_toList]
    rfl

/-- No link reads like a declaration. -/
theorem declaration?_link {l : Link} (bare : isBare l.source = true) :
    declaration? (link l).toList = none := by
  have other (rest : List Char) : afterMark? " \"" (" --> ".toList ++ rest) = none := rfl
  simp only [declaration?, toList_link, word?_identifier bare (stops_arrow _), other,
    Option.bind_eq_bind, Option.bind_some, Option.bind_none, ite_self]

end PlantUml

/-! ## Drawings -/

namespace Graph

/-- The table gives an alias to an id of the graph exactly when it cannot stand for itself. -/
theorem lookup_aliases (graph : Graph) {id : String} (mem : id ∈ graph.ids) :
    graph.aliases.lookup id = if isBare id then none else some (graph.identifier id) := by
  split
  · rename_i bare
    obtain ⟨taken, issued⟩ := graph.issued_aliases
    refine List.lookup_eq_none_iff.mpr fun entry listed => bne_iff_ne.mpr ?_
    rintro rfl
    simp [issued.needy entry listed] at bare
  · rename_i needy
    obtain ⟨name, known⟩ := exists_lookup_assign graph.bareIds []
      ((graph.mem_servingOrder_iff id).mpr mem) (Bool.eq_false_iff.mpr needy)
    have known : graph.aliases.lookup id = some name := known
    rw [identifier, nameIn, known, Option.getD_some]

/-- What is declared beside the nodes are the dangling ends of edges, under their identifiers. -/
theorem undeclared_eq (graph : Graph) :
    graph.undeclared = graph.dangling.map fun id => (id, graph.identifier id) := by
  have known : ∀ id ∈ graph.distinctEndpoints, id ∈ graph.ids := fun id mem =>
    List.mem_append_right _ (List.mem_eraseDups.mp mem)
  unfold undeclared dangling
  rw [← endpoints, ← nodeIds, ← distinctEndpoints]
  revert known
  induction graph.distinctEndpoints with
  | nil => intro _; rfl
  | cons id rest ih =>
    intro known
    have here := graph.lookup_aliases (known id List.mem_cons_self)
    have others := ih fun other mem => known other (List.mem_cons_of_mem _ mem)
    cases shown : graph.nodeIds.contains id <;> cases bare : isBare id <;>
      simp [-List.contains_eq_mem, shown, bare, here, others]

/-- The statements of a graph are those of its drawing, with escaped captions. -/
theorem statements_eq (graph : Graph) (escaped : String → String) :
    graph.statements escaped =
      graph.drawing.declarations.map (fun d => .declares ⟨d.name, escaped d.caption⟩) ++
        graph.drawing.links.map fun l => .links ⟨l.source, l.target, l.caption.map escaped⟩ := by
  simp [statements, declarations_drawing, links_drawing, undeclared_eq, List.map_map,
    Function.comp_def]

/-- The statements about entities are those of the entities and relations. -/
theorem entityStatements_eq (graph : Graph) (escaped : String → String) :
    graph.entityStatements escaped =
      graph.entities.map (fun name => .declares name) ++
        graph.relations.map fun l =>
          .links ⟨l.source, l.target, some (escaped (l.caption.getD ""))⟩ := by
  simp [entityStatements, entities_eq, nodeIds, relations_eq, List.map_map, Function.comp_def]

end Graph

/-- A flowchart is read back. -/
theorem Mermaid.flowchart?_render (graph : Graph) (direction : Direction) :
    flowchart? (render graph .flow direction) =
      some (direction, graph.statements escaped) := by
  have statements := readEach_statements
    (fun d (declared : d ∈ graph.drawing.declarations) =>
      declaration?_declaration (Graph.isBare_of_mem_declarations declared))
    (fun l (linked : l ∈ graph.drawing.links) =>
      declaration?_link (Graph.isBare_of_mem_links linked).1)
    (fun l linked => link?_link (Graph.isBare_of_mem_links linked))
  simp only [flowchart?, textLines_flowchart, flowchart, lookup_directions, statements,
    Graph.statements_eq, Option.bind_eq_bind, Option.bind_some]
  rfl

/-- An entity diagram is read back. -/
theorem Mermaid.entityDiagram?_render (graph : Graph) (direction : Direction) :
    entityDiagram? (render graph .entities direction) =
      some (graph.entityStatements escaped) := by
  have statements := readEach_statements
    (fun name (shown : name ∈ graph.entities) =>
      entity?_entity (Graph.isBare_of_mem_entities shown))
    (fun l (related : l ∈ graph.relations) =>
      entity?_relation (Graph.isBare_of_mem_relations related).1)
    (fun l related => relation?_relation (Graph.isBare_of_mem_relations related))
  simp only [entityDiagram?, textLines_entityDiagram, entityDiagram, statements,
    Graph.entityStatements_eq]

/-- A PlantUML text is read back. -/
theorem PlantUml.drawing?_render (graph : Graph) :
    drawing? (render graph) = some (graph.statements escaped) := by
  have statements := readEach_statements
    (fun d (declared : d ∈ graph.drawing.declarations) =>
      declaration?_declaration (Graph.isBare_of_mem_declarations declared))
    (fun l (linked : l ∈ graph.drawing.links) =>
      declaration?_link (Graph.isBare_of_mem_links linked).1)
    (fun l linked => link?_link (Graph.isBare_of_mem_links linked))
  simp only [drawing?, textLines_render, lines, opening, List.cons_append, List.nil_append,
    List.getLast?_append, List.getLast?_singleton, Option.some_or, if_true,
    List.dropLast_concat, statements, Graph.statements_eq]

/-- Whoever splits a drawing at its line feeds and knows the notation reads off it what the graph
says and nothing else: the direction, a declaration for each node and for each dangling end, and a
link for each edge. A caption is a label, or what stands in for one that is missing or empty, and
comes back with nothing but its quotation marks and line feeds replaced. -/
theorem drawings_read_back (graph : Graph) (direction : Direction) :
    Mermaid.flowchart? (Mermaid.render graph .flow direction) =
      some (direction, graph.statements (replacing "#quot;" "<br/>")) ∧
    Mermaid.entityDiagram? (Mermaid.render graph .entities direction) =
      some (graph.entityStatements (replacing "#quot;" "<br/>")) ∧
    PlantUml.drawing? (PlantUml.render graph) =
      some (graph.statements (replacing "&#34;" "\\n")) := by
  rw [← Mermaid.escaped_eq, ← PlantUml.escaped_eq]
  exact ⟨Mermaid.flowchart?_render graph direction, Mermaid.entityDiagram?_render graph direction,
    PlantUml.drawing?_render graph⟩

end PromptDiagram
