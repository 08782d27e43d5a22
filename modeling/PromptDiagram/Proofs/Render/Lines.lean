import PromptDiagram.Proofs.Alias.Table
import PromptDiagram.Render.Mermaid
import PromptDiagram.Render.PlantUml

/-!
# The lines of drawings

Every statement of a drawing is one line: identifiers are words, and what a caption holds is
escaped. So the lines of a text are the statements that were written, and no id, label or kind adds
one.
-/

namespace PromptDiagram

open Text

/-- The lines of a text, which line feeds separate. -/
def textLines (text : String) : List String :=
  (text.toList.splitOn '\n').map String.ofList

/-- A text without a line feed. -/
def IsLine (text : String) : Prop :=
  '\n' ∉ text.toList

instance (text : String) : Decidable (IsLine text) :=
  inferInstanceAs (Decidable ('\n' ∉ text.toList))

/-- Texts in a row are a line when each is without a line feed. -/
@[simp]
theorem isLine_append {left right : String} :
    IsLine (left ++ right) ↔ IsLine left ∧ IsLine right := by
  simp [IsLine]

/-- Lines that are joined are the lines of the text. -/
theorem textLines_joinLines {lines : List String} (nonempty : lines ≠ [])
    (single : ∀ line ∈ lines, IsLine line) : textLines (joinLines lines) = lines := by
  have split : (['\n'].intercalate (lines.map String.toList)).splitOn '\n' =
      lines.map String.toList := by
    refine List.splitOn_intercalate '\n' ?_ (by simpa using nonempty)
    intro chars mem
    obtain ⟨line, written, rfl⟩ := List.mem_map.mp mem
    exact single line written
  rw [textLines, toList_joinLines, split, List.map_map]
  have same : String.ofList ∘ String.toList = id := by
    funext text
    simp
  rw [same, List.map_id]

/-- A text has no occurrence of a character once escaped if nothing is escaped by that character. -/
theorem not_mem_escapeWith {x : Char} {escape : Char → String}
    (escaped : ∀ c, x ∉ (escape c).toList) (text : String) :
    x ∉ (escapeWith escape text).toList := by
  rw [toList_escapeWith]
  intro mem
  obtain ⟨c, -, mem⟩ := List.mem_flatMap.mp mem
  exact escaped c mem

/-- A quotation mark or a line feed is not escaped by itself where its replacements have none. -/
theorem not_mem_replaced {x : Char} (replaced : x = '"' ∨ x = '\n') {mark feed : String}
    (markFree : x ∉ mark.toList) (feedFree : x ∉ feed.toList) (c : Char) :
    x ∉ (if c == '"' then mark else if c == '\n' then feed else c.toString).toList := by
  split
  · exact markFree
  · rename_i unquoted
    split
    · exact feedFree
    · rename_i other
      rintro mem
      obtain rfl : x = c := by simpa using mem
      simp_all

/-- A text is a line once escaped if nothing is escaped by a line feed. -/
theorem isLine_escapeWith {escape : Char → String} (escaped : ∀ c, IsLine (escape c))
    (text : String) : IsLine (escapeWith escape text) :=
  not_mem_escapeWith escaped text

/-- An identifier is made of words' characters. -/
theorem isWord_of_isBare {name : String} (bare : isBare name = true) :
    ∀ c ∈ name.toList, isWord c = true := by
  simp only [isBare, Bool.and_eq_true] at bare
  cases chars : name.toList with
  | nil => simp
  | cons first rest =>
    obtain ⟨start, others⟩ : isWordStart first = true ∧ ∀ c ∈ rest, isWord c = true := by
      simpa [chars, isIdentifier] using bare.1
    intro c mem
    rcases List.mem_cons.mp mem with rfl | mem
    · simp only [isWordStart, Bool.or_eq_true] at start
      rcases start with letter | underscore
      · simp [isWord, letter]
      · simp [isWord, underscore]
    · exact others c mem

/-- An identifier is a line. -/
theorem isLine_of_isBare {name : String} (bare : isBare name = true) : IsLine name := by
  intro mem
  have word := isWord_of_isBare bare '\n' mem
  exact absurd word (by decide)

/-! ## Captions -/

/-- The text that has to show for a node: its label, or its id if the label is missing or empty. -/
def Node.shownText (node : Node) : String :=
  match node.label with
  | none => node.id
  | some label => if label = "" then node.id else label

/-- The text that has to show for an edge: its label, or none if the label is missing or empty. -/
def Edge.shownText? (edge : Edge) : Option String :=
  match edge.label with
  | none => none
  | some label => if label = "" then none else some label

/-- The text that has to show for a relation: the label of its edge, or the kind if the label is
missing or empty, or nothing if both are. -/
def Edge.shownRelation (edge : Edge) : String :=
  match edge.shownText?, edge.kind with
  | some label, _ => label
  | none, some kind => kind
  | none, none => ""

/-- A text counts where it is there and not empty. -/
theorem nonEmpty_some (text : String) :
    nonEmpty (some text) = if text = "" then none else some text := by
  by_cases empty : text = "" <;> simp [nonEmpty, empty]

/-- The caption of a node is the text that has to show for it. -/
theorem Node.caption_eq (node : Node) : node.caption = node.shownText := by
  unfold caption shownText
  cases node.label with
  | none => rfl
  | some label => by_cases empty : label = "" <;> simp [nonEmpty_some, empty]

/-- The caption of an edge is the text that has to show for it. -/
theorem Edge.caption?_eq (edge : Edge) : edge.caption? = edge.shownText? := by
  unfold caption? shownText?
  cases edge.label with
  | none => rfl
  | some label => exact nonEmpty_some label

/-- The caption of a relation is the text that has to show for it. -/
theorem Graph.relationCaption_eq (edge : Edge) : relationCaption edge = edge.shownRelation := by
  unfold relationCaption Edge.shownRelation
  rw [edge.caption?_eq]
  cases edge.shownText? with
  | some label => rfl
  | none =>
    cases edge.kind with
    | none => rfl
    | some kind => by_cases empty : kind = "" <;> simp [nonEmpty_some, empty]

/-! ## Names in drawings -/

namespace Graph

/-- The ids of nodes are ids of the graph. -/
theorem id_mem_ids {graph : Graph} {node : Node} (mem : node ∈ graph.nodes) :
    node.id ∈ graph.ids :=
  mem_ids_iff.mpr (.inl ⟨node, mem, rfl⟩)

/-- The ends of edges are ids of the graph. -/
theorem ends_mem_ids {graph : Graph} {edge : Edge} (mem : edge ∈ graph.edges) :
    edge.source ∈ graph.ids ∧ edge.target ∈ graph.ids :=
  ⟨mem_ids_iff.mpr (.inr ⟨edge, mem, .inl rfl⟩), mem_ids_iff.mpr (.inr ⟨edge, mem, .inr rfl⟩)⟩

/-- What is declared beside the nodes is an id of the graph under its identifier. -/
theorem mem_undeclared {graph : Graph} {entry : String × String} (mem : entry ∈ graph.undeclared) :
    entry.1 ∈ graph.ids ∧ entry.2 = graph.identifier entry.1 := by
  obtain ⟨id, dangling, named⟩ := List.mem_filterMap.mp mem
  obtain ⟨name, known, rfl⟩ := Option.map_eq_some_iff.mp named
  have endpoint := (List.mem_filter.mp dangling).1
  constructor
  · rw [distinctEndpoints, List.mem_eraseDups] at endpoint
    exact List.mem_append_right _ endpoint
  · rw [identifier, nameIn, known, Option.getD_some]

/-- The links of a drawing join identifiers of the edges' ends and show the labels. -/
theorem links_drawing (graph : Graph) :
    graph.drawing.links = graph.edges.map fun edge =>
      ⟨graph.identifier edge.source, graph.identifier edge.target, edge.shownText?⟩ := by
  simp only [drawing, Edge.caption?_eq]
  rfl

/-- The declarations of a drawing begin with the identifiers of the nodes and what shows for
them. -/
theorem declarations_drawing (graph : Graph) :
    graph.drawing.declarations =
      graph.nodes.map (fun node => ⟨graph.identifier node.id, node.shownText⟩) ++
        graph.undeclared.map fun entry => ⟨entry.2, entry.1⟩ := by
  simp only [drawing, Node.caption_eq]
  rfl

/-- Whatever a drawing declares is declared under an identifier. -/
theorem isBare_of_mem_declarations {graph : Graph} {d : Declaration}
    (mem : d ∈ graph.drawing.declarations) : isBare d.name = true := by
  rw [declarations_drawing] at mem
  rcases List.mem_append.mp mem with mem | mem
  · obtain ⟨node, shown, rfl⟩ := List.mem_map.mp mem
    exact graph.isBare_identifier (id_mem_ids shown)
  · obtain ⟨entry, shown, rfl⟩ := List.mem_map.mp mem
    obtain ⟨known, name⟩ := mem_undeclared shown
    simp only [name]
    exact graph.isBare_identifier known

/-- Whatever a drawing links are identifiers. -/
theorem isBare_of_mem_links {graph : Graph} {l : Link} (mem : l ∈ graph.drawing.links) :
    isBare l.source = true ∧ isBare l.target = true := by
  rw [links_drawing] at mem
  obtain ⟨edge, drawn, rfl⟩ := List.mem_map.mp mem
  obtain ⟨source, target⟩ := ends_mem_ids drawn
  exact ⟨graph.isBare_identifier source, graph.isBare_identifier target⟩

/-- The entities of a graph are the identifiers of its nodes' ids, once for each id. -/
theorem entities_eq (graph : Graph) :
    graph.entities = graph.nodeIds.eraseDups.map graph.identifier := rfl

/-- The relations of a graph relate identifiers of the edges' ends. -/
theorem relations_eq (graph : Graph) :
    graph.relations = graph.edges.map fun edge =>
      ⟨graph.identifier edge.source, graph.identifier edge.target,
        some edge.shownRelation⟩ := by
  simp only [relations, relationCaption_eq]
  rfl

/-- Whatever is an entity is one under an identifier. -/
theorem isBare_of_mem_entities {graph : Graph} {name : String} (mem : name ∈ graph.entities) :
    isBare name = true := by
  rw [entities_eq] at mem
  obtain ⟨id, shown, rfl⟩ := List.mem_map.mp mem
  apply graph.isBare_identifier
  exact List.mem_append_left _ (List.mem_eraseDups.mp shown)

/-- Whatever is related are identifiers. -/
theorem isBare_of_mem_relations {graph : Graph} {l : Link} (mem : l ∈ graph.relations) :
    isBare l.source = true ∧ isBare l.target = true := by
  rw [relations_eq] at mem
  obtain ⟨edge, drawn, rfl⟩ := List.mem_map.mp mem
  obtain ⟨source, target⟩ := ends_mem_ids drawn
  exact ⟨graph.isBare_identifier source, graph.isBare_identifier target⟩

end Graph

/-! ## Mermaid -/

namespace Mermaid

/-- No character is escaped by a line feed. -/
theorem isLine_escape (c : Char) : IsLine (escape c) :=
  not_mem_replaced (.inr rfl) (by decide) (by decide) c

/-- A text in quotation marks is a line. -/
theorem isLine_quoted (text : String) : IsLine (quoted text) := by
  simp only [quoted, isLine_append]
  exact ⟨⟨by decide, isLine_escapeWith isLine_escape text⟩, by decide⟩

/-- A declaration is a line. -/
theorem isLine_declaration {d : Declaration} (bare : isBare d.name = true) :
    IsLine (declaration d) := by
  simp only [declaration, statement, isLine_append]
  exact ⟨by decide, ⟨⟨isLine_of_isBare bare, by decide⟩, isLine_quoted _⟩, by decide⟩

/-- A link is a line. -/
theorem isLine_link {l : Link} (bare : isBare l.source = true ∧ isBare l.target = true) :
    IsLine (link l) := by
  have source := isLine_of_isBare bare.1
  have target := isLine_of_isBare bare.2
  unfold link
  split <;> simp only [statement, isLine_append]
  · exact ⟨by decide, ⟨⟨⟨source, by decide⟩, isLine_quoted _⟩, by decide⟩, target⟩
  · exact ⟨by decide, ⟨source, by decide⟩, target⟩

/-- An entity is a line. -/
theorem isLine_entity {name : String} (bare : isBare name = true) : IsLine (entity name) := by
  simp only [entity, statement, isLine_append]
  exact ⟨by decide, isLine_of_isBare bare, by decide⟩

/-- A relation is a line. -/
theorem isLine_relation {l : Link} (bare : isBare l.source = true ∧ isBare l.target = true) :
    IsLine (relation l) := by
  simp only [relation, statement, isLine_append]
  exact ⟨by decide, ⟨⟨⟨isLine_of_isBare bare.1, by decide⟩, isLine_of_isBare bare.2⟩, by decide⟩,
    isLine_quoted _⟩

/-- The lines of a flowchart are its statements. -/
theorem textLines_flowchart (graph : Graph) (direction : Direction) :
    textLines (render graph .flow direction) = flowchart graph direction := by
  apply textLines_joinLines (List.cons_ne_nil _ _)
  intro line mem
  rcases List.mem_cons.mp mem with rfl | mem
  · cases direction <;> decide
  rcases List.mem_append.mp mem with mem | mem
  · obtain ⟨d, declared, rfl⟩ := List.mem_map.mp mem
    exact isLine_declaration (Graph.isBare_of_mem_declarations declared)
  · obtain ⟨l, linked, rfl⟩ := List.mem_map.mp mem
    exact isLine_link (Graph.isBare_of_mem_links linked)

/-- The lines of an entity diagram are its statements. -/
theorem textLines_entityDiagram (graph : Graph) (direction : Direction) :
    textLines (render graph .entities direction) = entityDiagram graph := by
  apply textLines_joinLines (List.cons_ne_nil _ _)
  intro line mem
  rcases List.mem_cons.mp mem with rfl | mem
  · decide
  rcases List.mem_append.mp mem with mem | mem
  · obtain ⟨name, shown, rfl⟩ := List.mem_map.mp mem
    exact isLine_entity (Graph.isBare_of_mem_entities shown)
  · obtain ⟨l, related, rfl⟩ := List.mem_map.mp mem
    exact isLine_relation (Graph.isBare_of_mem_relations related)

end Mermaid

/-! ## PlantUML -/

namespace PlantUml

/-- No character is escaped by a line feed. -/
theorem isLine_escape (c : Char) : IsLine (escape c) :=
  not_mem_replaced (.inr rfl) (by decide) (by decide) c

/-- A declaration is a line. -/
theorem isLine_declaration {d : Declaration} (bare : isBare d.name = true) :
    IsLine (declaration d) := by
  simp only [declaration, isLine_append]
  exact ⟨⟨⟨by decide, isLine_escapeWith isLine_escape _⟩, by decide⟩, isLine_of_isBare bare⟩

/-- A link is a line. -/
theorem isLine_link {l : Link} (bare : isBare l.source = true ∧ isBare l.target = true) :
    IsLine (link l) := by
  have arrow : IsLine (l.source ++ " --> " ++ l.target) := by
    simp only [isLine_append]
    exact ⟨⟨isLine_of_isBare bare.1, by decide⟩, isLine_of_isBare bare.2⟩
  unfold link
  dsimp only
  split
  · simp only [isLine_append] at arrow ⊢
    exact ⟨⟨arrow, by decide⟩, isLine_escapeWith isLine_escape _⟩
  · exact arrow

/-- The lines of a drawing are its statements. -/
theorem textLines_render (graph : Graph) : textLines (render graph) = lines graph := by
  apply textLines_joinLines (by simp [lines, opening])
  intro line mem
  simp only [lines, List.mem_append, List.mem_map, List.mem_singleton] at mem
  rcases mem with ((opened | ⟨d, declared, rfl⟩) | ⟨l, linked, rfl⟩) | rfl
  · have single : ∀ line ∈ opening, IsLine line := by unfold IsLine; decide
    exact single line opened
  · exact isLine_declaration (Graph.isBare_of_mem_declarations declared)
  · exact isLine_link (Graph.isBare_of_mem_links linked)
  · decide

end PlantUml
end PromptDiagram
