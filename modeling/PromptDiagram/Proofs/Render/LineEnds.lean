import PromptDiagram.Proofs.Render.Statements

/-!
# Line ends in drawings

Every line feed of a drawing stands between two statements: an escaped text has none of its own.
A carriage return is written by no renderer, but it is not escaped either. So a drawing has one
exactly where a text that it shows has one, and a tool that ends lines at carriage returns sees
lines that nobody wrote.
-/

namespace PromptDiagram

open Text

/-- Whether a carriage return stands in a text. -/
def HasReturn (text : String) : Prop :=
  '\r' ∈ text.toList

instance (text : String) : Decidable (HasReturn text) :=
  inferInstanceAs (Decidable ('\r' ∈ text.toList))

/-- A carriage return stands in texts in a row where it stands in one of them. -/
@[simp]
theorem hasReturn_append {left right : String} :
    HasReturn (left ++ right) ↔ HasReturn left ∨ HasReturn right := by
  simp [HasReturn]

/-- A carriage return stands in joined lines where it stands in one of them. -/
theorem hasReturn_joinLines {lines : List String} :
    HasReturn (joinLines lines) ↔ ∃ line ∈ lines, HasReturn line := by
  unfold HasReturn
  rw [toList_joinLines]
  induction lines with
  | nil => simp
  | cons line lines ih =>
    cases lines with
    | nil => simp
    | cons next lines =>
      have more : (next :: lines).map String.toList ≠ [] := by simp
      rw [List.map_cons, List.intercalate_cons_of_ne_nil more, List.exists_mem_cons_iff, ← ih]
      simp

/-- A carriage return stands in an escaped text where it stands in the text, if it is written for
itself and for no other character. -/
theorem hasReturn_escapeWith {escape : Char → String}
    (kept : ∀ c, HasReturn (escape c) ↔ c = '\r') (text : String) :
    HasReturn (escapeWith escape text) ↔ HasReturn text := by
  unfold HasReturn at kept ⊢
  simp [toList_escapeWith, kept]

/-- No carriage return stands in an identifier. -/
theorem not_hasReturn_of_isBare {name : String} (bare : isBare name = true) : ¬HasReturn name := by
  intro mem
  have word := isWord_of_isBare bare '\r' mem
  exact absurd word (by decide)

/-- A carriage return is written for itself only where a quotation mark and a line feed are replaced
by texts without one. -/
theorem hasReturn_replaced {mark feed : String} (markFree : ¬HasReturn mark)
    (feedFree : ¬HasReturn feed) (c : Char) :
    HasReturn (if c == '"' then mark else if c == '\n' then feed else c.toString) ↔ c = '\r' := by
  split
  · rename_i quotes
    obtain rfl : c = '"' := by simpa using quotes
    simp [markFree]
  · split
    · rename_i breaks
      obtain rfl : c = '\n' := by simpa using breaks
      simp [feedFree]
    · simp [HasReturn, eq_comm]

/-! ## What is shown -/

namespace Graph

/-- The texts that a flowchart shows, and a PlantUML drawing: the captions of the nodes, the
dangling ends of edges and the captions of the edges. -/
def shownTexts (graph : Graph) : List String :=
  graph.nodes.map Node.shownText ++ graph.dangling ++ graph.edges.filterMap Edge.shownText?

/-- The texts that an entity diagram shows. -/
def relationTexts (graph : Graph) : List String :=
  graph.edges.map Edge.shownRelation

/-- What a drawing declares and links shows these texts. -/
theorem shownTexts_eq (graph : Graph) :
    graph.shownTexts = graph.drawing.declarations.map Declaration.caption ++
      graph.drawing.links.filterMap Link.caption := by
  simp [shownTexts, declarations_drawing, links_drawing, undeclared_eq, List.filterMap_map,
    Function.comp_def]

/-- Statements about a drawing have a carriage return where a text has one that is shown, if each
statement has one where its caption has one. -/
theorem hasReturn_statements (graph : Graph) {declaration : Declaration → String}
    {link : Link → String}
    (declared : ∀ d ∈ graph.drawing.declarations, HasReturn (declaration d) ↔ HasReturn d.caption)
    (linked : ∀ l ∈ graph.drawing.links,
      HasReturn (link l) ↔ ∃ caption ∈ l.caption, HasReturn caption) :
    (∃ line ∈ graph.drawing.declarations.map declaration ++ graph.drawing.links.map link,
      HasReturn line) ↔ ∃ text ∈ graph.shownTexts, HasReturn text := by
  have declarations : (∃ line ∈ graph.drawing.declarations.map declaration, HasReturn line) ↔
      ∃ text ∈ graph.drawing.declarations.map Declaration.caption, HasReturn text := by
    simpa using exists_congr fun d => and_congr_right (declared d)
  have links : (∃ line ∈ graph.drawing.links.map link, HasReturn line) ↔
      ∃ text ∈ graph.drawing.links.filterMap Link.caption, HasReturn text := by
    constructor
    · rintro ⟨line, mem, returns⟩
      obtain ⟨l, drawn, rfl⟩ := List.mem_map.mp mem
      obtain ⟨text, caption, inText⟩ := (linked l drawn).mp returns
      exact ⟨text, List.mem_filterMap.mpr ⟨l, drawn, caption⟩, inText⟩
    · rintro ⟨text, mem, inText⟩
      obtain ⟨l, drawn, caption⟩ := List.mem_filterMap.mp mem
      exact ⟨link l, List.mem_map_of_mem drawn, (linked l drawn).mpr ⟨text, caption, inText⟩⟩
  simp only [shownTexts_eq, List.mem_append, or_and_right, exists_or, declarations, links]

end Graph

namespace Mermaid

/-- A carriage return is written for itself and for no other character. -/
theorem hasReturn_escape (c : Char) : HasReturn (escape c) ↔ c = '\r' :=
  hasReturn_replaced (by decide) (by decide) c

/-- A text in quotation marks has a carriage return where the text has one. -/
theorem hasReturn_quoted (text : String) : HasReturn (quoted text) ↔ HasReturn text := by
  simp +decide [quoted, hasReturn_escapeWith hasReturn_escape]

/-- A declaration has a carriage return where its caption has one. -/
theorem hasReturn_declaration {d : Declaration} (bare : isBare d.name = true) :
    HasReturn (declaration d) ↔ HasReturn d.caption := by
  simp +decide [declaration, statement, hasReturn_quoted, not_hasReturn_of_isBare bare]

/-- A link has a carriage return where its caption has one. -/
theorem hasReturn_link {l : Link} (bare : isBare l.source = true ∧ isBare l.target = true) :
    HasReturn (link l) ↔ ∃ caption ∈ l.caption, HasReturn caption := by
  have source := not_hasReturn_of_isBare bare.1
  have target := not_hasReturn_of_isBare bare.2
  unfold link
  split <;> rename_i caption <;>
    simp +decide [statement, hasReturn_quoted, source, target, caption]

/-- An entity has no carriage return. -/
theorem not_hasReturn_entity {name : String} (bare : isBare name = true) :
    ¬HasReturn (entity name) := by
  simp +decide [entity, statement, not_hasReturn_of_isBare bare]

/-- A relation has a carriage return where its caption has one. -/
theorem hasReturn_relation {l : Link} (bare : isBare l.source = true ∧ isBare l.target = true) :
    HasReturn (relation l) ↔ HasReturn (l.caption.getD "") := by
  simp +decide [relation, statement, hasReturn_quoted, not_hasReturn_of_isBare bare.1,
    not_hasReturn_of_isBare bare.2]

/-- A flowchart has a carriage return where a text has one that it shows. -/
theorem hasReturn_flowchart (graph : Graph) (direction : Direction) :
    HasReturn (render graph .flow direction) ↔ ∃ text ∈ graph.shownTexts, HasReturn text := by
  have header : ¬HasReturn ("flowchart " ++ direction.name) := by cases direction <;> decide
  rw [render, hasReturn_joinLines, flowchart, List.exists_mem_cons_iff,
    Graph.hasReturn_statements graph
      (fun d declared => hasReturn_declaration (Graph.isBare_of_mem_declarations declared))
      (fun l linked => hasReturn_link (Graph.isBare_of_mem_links linked))]
  simp [header]

/-- An entity diagram has a carriage return where the text of a relation has one. -/
theorem hasReturn_entityDiagram (graph : Graph) (direction : Direction) :
    HasReturn (render graph .entities direction) ↔
      ∃ text ∈ graph.relationTexts, HasReturn text := by
  have header : ¬HasReturn "erDiagram" := by decide
  have entities : ¬∃ line ∈ graph.entities.map entity, HasReturn line := by
    rintro ⟨line, mem, returns⟩
    obtain ⟨name, shown, rfl⟩ := List.mem_map.mp mem
    exact not_hasReturn_entity (Graph.isBare_of_mem_entities shown) returns
  have relations : (∃ line ∈ graph.relations.map relation, HasReturn line) ↔
      ∃ text ∈ graph.relationTexts, HasReturn text := by
    have texts : graph.relationTexts = graph.relations.map fun l => l.caption.getD "" := by
      simp [Graph.relationTexts, Graph.relations_eq, Function.comp_def]
    rw [texts]
    simpa using exists_congr fun l => and_congr_right fun related =>
      hasReturn_relation (Graph.isBare_of_mem_relations related)
  rw [render, hasReturn_joinLines, entityDiagram, List.exists_mem_cons_iff]
  simp only [List.mem_append, or_and_right, exists_or, header, entities, relations, false_or]

end Mermaid

namespace PlantUml

/-- A carriage return is written for itself and for no other character. -/
theorem hasReturn_escape (c : Char) : HasReturn (escape c) ↔ c = '\r' :=
  hasReturn_replaced (by decide) (by decide) c

/-- A declaration has a carriage return where its caption has one. -/
theorem hasReturn_declaration {d : Declaration} (bare : isBare d.name = true) :
    HasReturn (declaration d) ↔ HasReturn d.caption := by
  simp +decide [declaration, hasReturn_escapeWith hasReturn_escape, not_hasReturn_of_isBare bare]

/-- A link has a carriage return where its caption has one. -/
theorem hasReturn_link {l : Link} (bare : isBare l.source = true ∧ isBare l.target = true) :
    HasReturn (link l) ↔ ∃ caption ∈ l.caption, HasReturn caption := by
  have source := not_hasReturn_of_isBare bare.1
  have target := not_hasReturn_of_isBare bare.2
  unfold link
  dsimp only
  split <;> rename_i caption <;>
    simp +decide [hasReturn_escapeWith hasReturn_escape, source, target, caption]

/-- A drawing has a carriage return where a text has one that it shows. -/
theorem hasReturn_render (graph : Graph) :
    HasReturn (render graph) ↔ ∃ text ∈ graph.shownTexts, HasReturn text := by
  have opened : ¬∃ line ∈ opening, HasReturn line := by unfold opening HasReturn; decide
  have closing : ¬∃ line ∈ ["@enduml"], HasReturn line := by unfold HasReturn; decide
  have statements := Graph.hasReturn_statements graph
    (fun d declared => hasReturn_declaration (Graph.isBare_of_mem_declarations declared))
    (fun l linked => hasReturn_link (Graph.isBare_of_mem_links linked))
  rw [render, hasReturn_joinLines, lines, List.append_assoc opening]
  simp only [List.mem_append, or_and_right, exists_or] at statements opened closing ⊢
  simp only [statements, opened, closing, false_or, or_false]

end PlantUml

/-! ## Drawings -/

/-- The lines of a drawing, if only line feeds end lines, are its statements, so no id, label or
kind adds a line feed. Carriage returns are in a drawing if and only if a text has one that the
drawing shows. -/
theorem drawing_line_ends (graph : Graph) (direction : Direction) :
    (textLines (Mermaid.render graph .flow direction) = Mermaid.flowchart graph direction ∧
      textLines (Mermaid.render graph .entities direction) = Mermaid.entityDiagram graph ∧
      textLines (PlantUml.render graph) = PlantUml.lines graph) ∧
    (HasReturn (Mermaid.render graph .flow direction) ↔
      ∃ text ∈ graph.shownTexts, HasReturn text) ∧
    (HasReturn (Mermaid.render graph .entities direction) ↔
      ∃ text ∈ graph.relationTexts, HasReturn text) ∧
    (HasReturn (PlantUml.render graph) ↔ ∃ text ∈ graph.shownTexts, HasReturn text) :=
  ⟨⟨Mermaid.textLines_flowchart graph direction, Mermaid.textLines_entityDiagram graph direction,
      PlantUml.textLines_render graph⟩,
    Mermaid.hasReturn_flowchart graph direction, Mermaid.hasReturn_entityDiagram graph direction,
    PlantUml.hasReturn_render graph⟩

/-- A node and an edge with labels of two lines that end as some tools end them. -/
def twoLines : Graph where
  nodes := [{ id := "a", label := some "x\r\ny" }]
  edges := [{ source := "a", target := "a", label := some "x\r\ny" }]

/-- The carriage returns of the labels are in every drawing. -/
theorem returns_of_twoLines :
    Mermaid.render twoLines .flow .down =
      "flowchart TD\n    a[\"x\r<br/>y\"]\n    a -->|\"x\r<br/>y\"| a" ∧
    HasReturn (Mermaid.render twoLines .flow .down) ∧
    HasReturn (Mermaid.render twoLines .entities .down) ∧ HasReturn (PlantUml.render twoLines) := by
  refine ⟨by decide, (Mermaid.hasReturn_flowchart _ _).mpr (by decide),
    (Mermaid.hasReturn_entityDiagram _ _).mpr (by decide),
    (PlantUml.hasReturn_render _).mpr (by decide)⟩

end PromptDiagram
