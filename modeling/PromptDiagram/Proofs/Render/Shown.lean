import PromptDiagram.Proofs.Render.Dot
import PromptDiagram.Render.Renderer

/-!
# Ids in drawings

Every id of a node and every end of an edge leaves a trace in a drawing: DOT texts and scenes write
the id itself, escaped as their notations ask for it, and the other two write its identifier. Where
an identifier is an alias, flowcharts and PlantUML texts write the id beside it, unless every node
of that id shows a label in its place.
-/

namespace PromptDiagram

open Json Text

/-! ## Texts within texts -/

/-- Whether characters stand in a row among others, with no letter, digit or underscore next to
them. -/
def Stands (text part : List Char) : Prop :=
  ∃ front back, text = front ++ (part ++ back) ∧ Stops isWord front.reverse ∧ Stops isWord back

/-- What stands in a part of a text stands in the text. -/
theorem Stands.trans {text line part : List Char} (outer : Stands text line)
    (inner : Stands line part) : Stands text part := by
  obtain ⟨front, back, rfl, opens, closes⟩ := outer
  obtain ⟨front', back', rfl, opens', closes'⟩ := inner
  refine ⟨front ++ front', back' ++ back, by simp, ?_, closes'.both closes⟩
  rw [List.reverse_append]
  exact opens'.both opens

/-- Every line stands in the text that the lines are joined to. -/
theorem stands_joinLines {lines : List String} {line : String} (mem : line ∈ lines) :
    Stands (joinLines lines).toList line.toList := by
  have feed : isWord '\n' = false := by decide
  rw [toList_joinLines]
  induction lines with
  | nil => exact absurd mem List.not_mem_nil
  | cons first rest ih =>
    rcases List.mem_cons.mp mem with rfl | mem
    · cases rest with
      | nil => exact ⟨[], [], by simp, stops_nil _, stops_nil _⟩
      | cons next rest =>
        refine ⟨[], '\n' :: ['\n'].intercalate ((next :: rest).map String.toList), ?_,
          stops_nil _, stops_cons.mpr feed⟩
        simp [List.intercalate_cons_cons]
    · have more : rest.map String.toList ≠ [] := by
        simpa using List.ne_nil_of_mem mem
      rw [List.map_cons, List.intercalate_cons_of_ne_nil more]
      refine Stands.trans ⟨first.toList ++ ['\n'], [], by simp, ?_, stops_nil _⟩ (ih mem)
      simpa using stops_cons.mpr feed

/-! ## Notations of lines -/

/-- Lines that write something for the id of every node and for both ends of every edge. -/
structure Mentions (write : String → String) (graph : Graph) (lines : List String) : Prop where
  node : ∀ node ∈ graph.nodes, ∃ line ∈ lines, Stands line.toList (write node.id).toList
  source : ∀ edge ∈ graph.edges, ∃ line ∈ lines, Stands line.toList (write edge.source).toList
  target : ∀ edge ∈ graph.edges, ∃ line ∈ lines, Stands line.toList (write edge.target).toList

/-- What lines write for an id stands in the text that they are joined to. -/
theorem Mentions.stands {write : String → String} {graph : Graph} {lines : List String}
    (mentions : Mentions write graph lines) {id : String} (mem : id ∈ graph.ids) :
    Stands (joinLines lines).toList (write id).toList := by
  obtain ⟨line, written, shows⟩ : ∃ line ∈ lines, Stands line.toList (write id).toList := by
    rcases Graph.mem_ids_iff.mp mem with ⟨node, drawn, rfl⟩ | ⟨edge, drawn, rfl | rfl⟩
    · exact mentions.node node drawn
    · exact mentions.source edge drawn
    · exact mentions.target edge drawn
  exact (stands_joinLines written).trans shows

/-- Statements that declare the identifiers of nodes and link those of edges' ends write the
identifier of every id. -/
theorem mentions_statements {α : Type} {graph : Graph} {lines opening closing : List String}
    {declared : List α} {links : List Link} {declare name : α → String} {link : Link → String}
    (parts : lines = opening ++ (declared.map declare ++ (links.map link ++ closing)))
    (node : ∀ node ∈ graph.nodes, ∃ a ∈ declared, name a = graph.identifier node.id)
    (edge : ∀ edge ∈ graph.edges, ∃ l ∈ links,
      l.source = graph.identifier edge.source ∧ l.target = graph.identifier edge.target)
    (named : ∀ a, Stands (declare a).toList (name a).toList)
    (source : ∀ l, Stands (link l).toList l.source.toList)
    (target : ∀ l, Stands (link l).toList l.target.toList) :
    Mentions graph.identifier graph lines where
  node n drawn := by
    obtain ⟨a, mem, same⟩ := node n drawn
    exact ⟨declare a, by simp [parts, List.mem_map_of_mem mem], same ▸ named a⟩
  source e drawn := by
    obtain ⟨l, mem, same, -⟩ := edge e drawn
    exact ⟨link l, by simp [parts, List.mem_map_of_mem mem], same ▸ source l⟩
  target e drawn := by
    obtain ⟨l, mem, -, same⟩ := edge e drawn
    exact ⟨link l, by simp [parts, List.mem_map_of_mem mem], same ▸ target l⟩

namespace Graph

/-- A drawing declares the identifier of every node. -/
theorem declares_identifier (graph : Graph) :
    ∀ node ∈ graph.nodes, ∃ d ∈ graph.drawing.declarations, d.name = graph.identifier node.id := by
  intro node drawn
  rw [declarations_drawing]
  exact ⟨_, List.mem_append_left _ (List.mem_map_of_mem drawn), rfl⟩

/-- A drawing links the identifiers of every edge's ends. -/
theorem links_identifiers (graph : Graph) : ∀ edge ∈ graph.edges, ∃ l ∈ graph.drawing.links,
    l.source = graph.identifier edge.source ∧ l.target = graph.identifier edge.target := by
  intro edge drawn
  rw [links_drawing]
  exact ⟨_, List.mem_map_of_mem drawn, rfl, rfl⟩

/-- The identifier of every node is an entity. -/
theorem lists_identifier (graph : Graph) :
    ∀ node ∈ graph.nodes, ∃ name ∈ graph.entities, name = graph.identifier node.id := by
  intro node drawn
  rw [entities_eq]
  have id : node.id ∈ graph.nodeIds.eraseDups := List.mem_eraseDups.mpr (List.mem_map_of_mem drawn)
  exact ⟨_, List.mem_map_of_mem id, rfl⟩

/-- The identifiers of every edge's ends are related. -/
theorem relates_identifiers (graph : Graph) : ∀ edge ∈ graph.edges, ∃ l ∈ graph.relations,
    l.source = graph.identifier edge.source ∧ l.target = graph.identifier edge.target := by
  intro edge drawn
  rw [relations_eq]
  exact ⟨_, List.mem_map_of_mem drawn, rfl, rfl⟩

/-- Whether an id is a caption: it is no node's id, or that of a node that no label stands for. -/
def IsCaption (graph : Graph) (id : String) : Prop :=
  id ∉ graph.nodeIds ∨ ∃ node ∈ graph.nodes, node.id = id ∧ node.shownText = id

instance (graph : Graph) (id : String) : Decidable (graph.IsCaption id) :=
  inferInstanceAs (Decidable (id ∉ graph.nodeIds ∨ _))

/-- An id that is a caption is the one of its alias, if it has an alias. -/
theorem mem_declarations {graph : Graph} {id : String} (mem : id ∈ graph.ids)
    (needy : isBare id = false) (caption : graph.IsCaption id) :
    ⟨graph.identifier id, id⟩ ∈ graph.drawing.declarations := by
  rw [declarations_drawing, undeclared_eq]
  rcases caption with absent | ⟨node, drawn, same, caption⟩
  · have endpoint : id ∈ graph.endpoints := (List.mem_append.mp mem).resolve_left absent
    have dangling : id ∈ graph.dangling := by
      rw [Graph.dangling, ← endpoints, ← nodeIds]
      simp [List.mem_eraseDups, endpoint, absent, needy]
    exact List.mem_append_right _ (by simpa using dangling)
  · refine List.mem_append_left _ (List.mem_map.mpr ⟨node, drawn, ?_⟩)
    rw [same, caption]

end Graph

namespace Mermaid

/-- A declaration shows its identifier. -/
theorem stands_name (d : Declaration) : Stands (declaration d).toList d.name.toList :=
  ⟨"    ".toList, "[".toList ++ ((quoted d.caption).toList ++ "]".toList),
    by simp [declaration, statement], by decide, Stops.append (by decide) (by decide) _⟩

/-- A declaration shows its caption. -/
theorem stands_caption (d : Declaration) :
    Stands (declaration d).toList (quoted d.caption).toList :=
  ⟨"    ".toList ++ d.name.toList ++ "[".toList, "]".toList,
    by simp [declaration, statement], Stops.behind (by decide) (by decide) _, by decide⟩

/-- A link shows its source. -/
theorem stands_source (l : Link) : Stands (link l).toList l.source.toList :=
  ⟨"    ".toList, _, toList_link l, by decide, stops_arrow _⟩

/-- A link shows its target. -/
theorem stands_target (l : Link) : Stands (link l).toList l.target.toList := by
  refine ⟨"    ".toList ++ l.source.toList ++ " -->".toList ++ linkCaption l.caption, [],
    by simp [toList_link], ?_, stops_nil _⟩
  cases l.caption with
  | none => exact Stops.behind (by decide) (by decide) _
  | some caption =>
    have parts : linkCaption (some caption) =
        ("|\"".toList ++ (escaped caption).toList) ++ "\"| ".toList := by
      simp [linkCaption]
    rw [parts, ← List.append_assoc]
    exact Stops.behind (by decide) (by decide) _

/-- A flowchart writes the identifiers of ids. -/
theorem mentions_flowchart (graph : Graph) (direction : Direction) :
    Mentions graph.identifier graph (flowchart graph direction) := by
  have parts : flowchart graph direction = ["flowchart " ++ direction.name] ++
      (graph.drawing.declarations.map declaration ++ (graph.drawing.links.map link ++ [])) := by
    simp [flowchart]
  exact mentions_statements parts graph.declares_identifier graph.links_identifiers stands_name
    stands_source stands_target

/-- An id stands in a flowchart that has it for a caption. -/
theorem stands_quoted {graph : Graph} {name id : String} (direction : Direction)
    (declared : ⟨name, id⟩ ∈ graph.drawing.declarations) :
    Stands (render graph .flow direction).toList (quoted id).toList := by
  have line : declaration ⟨name, id⟩ ∈ flowchart graph direction :=
    List.mem_cons_of_mem _ (List.mem_append_left _ (List.mem_map_of_mem declared))
  exact (stands_joinLines line).trans (stands_caption ⟨name, id⟩)

/-- An entity shows its identifier. -/
theorem stands_entity (name : String) : Stands (entity name).toList name.toList :=
  ⟨"    ".toList, " \x7b \x7d".toList, by simp [entity, statement], by decide, by decide⟩

/-- A relation shows its source. -/
theorem stands_relation_source (l : Link) : Stands (relation l).toList l.source.toList :=
  ⟨"    ".toList, _, toList_relation l, by decide, stops_relation _⟩

/-- A relation shows its target. -/
theorem stands_relation_target (l : Link) : Stands (relation l).toList l.target.toList :=
  ⟨"    ".toList ++ l.source.toList ++ " ||--o\x7b ".toList,
    " : ".toList ++ (quoted (l.caption.getD "")).toList, by simp [relation, statement],
    Stops.behind (by decide) (by decide) _, Stops.append (by decide) (by decide) _⟩

/-- An entity diagram writes the identifiers of ids. -/
theorem mentions_entityDiagram (graph : Graph) :
    Mentions graph.identifier graph (entityDiagram graph) := by
  have parts : entityDiagram graph = ["erDiagram"] ++
      (graph.entities.map entity ++ (graph.relations.map relation ++ [])) := by
    simp [entityDiagram]
  exact mentions_statements parts graph.lists_identifier graph.relates_identifiers stands_entity
    stands_relation_source stands_relation_target

end Mermaid

namespace PlantUml

/-- A text in quotation marks. -/
def quoted (text : String) : String :=
  "\"" ++ escapeWith escape text ++ "\""

/-- A declaration shows its identifier. -/
theorem stands_name (d : Declaration) : Stands (declaration d).toList d.name.toList :=
  ⟨"rectangle ".toList ++ (quoted d.caption).toList ++ " as ".toList, [],
    by simp [declaration, quoted], Stops.behind (by decide) (by decide) _, stops_nil _⟩

/-- A declaration shows its caption. -/
theorem stands_caption (d : Declaration) :
    Stands (declaration d).toList (quoted d.caption).toList :=
  ⟨"rectangle ".toList, " as ".toList ++ d.name.toList, by simp [declaration, quoted], by decide,
    Stops.append (by decide) (by decide) _⟩

/-- A link shows its source. -/
theorem stands_source (l : Link) : Stands (link l).toList l.source.toList :=
  ⟨[], _, toList_link l, stops_nil _, stops_arrow _⟩

/-- A link shows its target. -/
theorem stands_target (l : Link) : Stands (link l).toList l.target.toList := by
  refine ⟨l.source.toList ++ " --> ".toList, linkCaption l.caption, by simp [toList_link],
    Stops.behind (by decide) (by decide) _, ?_⟩
  cases l.caption with
  | none => exact stops_nil _
  | some caption => exact Stops.append (by decide) (by decide) _

/-- A PlantUML text writes the identifiers of ids. -/
theorem mentions_lines (graph : Graph) : Mentions graph.identifier graph (lines graph) := by
  have parts : lines graph = opening ++ (graph.drawing.declarations.map declaration ++
      (graph.drawing.links.map link ++ ["@enduml"])) := by
    simp [lines]
  exact mentions_statements parts graph.declares_identifier graph.links_identifiers stands_name
    stands_source stands_target

/-- An id stands in a PlantUML text that has it for a caption. -/
theorem stands_quoted {graph : Graph} {name id : String}
    (declared : ⟨name, id⟩ ∈ graph.drawing.declarations) :
    Stands (render graph).toList (quoted id).toList := by
  have line : declaration ⟨name, id⟩ ∈ lines graph := by
    simp [lines, List.mem_map_of_mem declared]
  exact (stands_joinLines line).trans (stands_caption ⟨name, id⟩)

end PlantUml

namespace Dot

/-- A node shows the token of its id. -/
theorem stands_id (n : Node) : Stands (node n).toList (token n.id).toList :=
  ⟨"  ".toList, " [label=".toList ++ ((quoted n.caption).toList ++ "];".toList),
    by simp [node, label], by decide, Stops.append (by decide) (by decide) _⟩

/-- An edge shows the token of its source. -/
theorem stands_source (e : Edge) : Stands (edge e).toList (token e.source).toList :=
  ⟨"  ".toList, _, toList_edge e, by decide, Stops.append (by decide) (by decide) _⟩

/-- An edge shows the token of its target. -/
theorem stands_target (e : Edge) : Stands (edge e).toList (token e.target).toList := by
  refine ⟨"  ".toList ++ (token e.source).toList ++ " -> ".toList,
    ((e.shownText?.map label).getD "").toList ++ ";".toList, by simp [toList_edge],
    Stops.behind (by decide) (by decide) _, ?_⟩
  cases e.shownText? with
  | none => decide
  | some caption =>
    have parts : ((some caption).map label |>.getD "").toList ++ ";".toList =
        " [label=".toList ++ ((quoted caption).toList ++ "];".toList) := by
      simp [label]
    rw [parts]
    exact Stops.append (by decide) (by decide) _

/-- A DOT text writes the tokens of ids. -/
theorem mentions_lines (graph : Graph) (direction : Direction) :
    Mentions token graph (lines graph direction) where
  node n drawn := ⟨node n, by simp [lines, List.mem_map_of_mem drawn], stands_id n⟩
  source e drawn := ⟨edge e, by simp [lines, List.mem_map_of_mem drawn], stands_source e⟩
  target e drawn := ⟨edge e, by simp [lines, List.mem_map_of_mem drawn], stands_target e⟩

end Dot

/-! ## Scenes -/

namespace Json

/-- What begins a line ends with a blank. -/
theorem stops_newLine (level : Nat) : Stops isWord (newLine level).reverse := by
  have blanks : ∀ n, Stops isWord (List.replicate n ' ') := by
    intro n
    cases n with
    | zero => exact stops_nil _
    | succ n => exact stops_cons.mpr (by decide)
  rw [newLine, List.reverse_cons, List.reverse_replicate]
  exact (blanks _).both (by decide)

/-- What is written for members that others follow stands before what is written for those. -/
theorem exists_indentedMembers_append (level : Nat) (before : List (String × Value)) :
    ∃ front, ∀ behind,
      indentedMembers level (before ++ behind) = front ++ indentedMembers level behind := by
  induction before with
  | nil => exact ⟨[], fun _ => rfl⟩
  | cons member before ih =>
    obtain ⟨front, split⟩ := ih
    exact ⟨',' :: newLine (level + 1) ++ quote member.1 ++ [':', ' '] ++
      member.2.indented (level + 1) ++ front, fun behind => by simp [indentedMembers, split]⟩

/-- What is written for items that others follow stands before what is written for those. -/
theorem exists_indentedItems_append (level : Nat) (before : List Value) :
    ∃ front, ∀ behind,
      indentedItems level (before ++ behind) = front ++ indentedItems level behind := by
  induction before with
  | nil => exact ⟨[], fun _ => rfl⟩
  | cons item before ih =>
    obtain ⟨front, split⟩ := ih
    exact ⟨',' :: newLine (level + 1) ++ item.indented (level + 1) ++ front,
      fun behind => by simp [indentedItems, split]⟩

/-- What an object holds under a name stands in the text of the object. -/
theorem stands_member {members : List (String × Value)} {name : String} {value : Value}
    (mem : (name, value) ∈ members) (level : Nat) :
    Stands ((Value.object members).indented level) (value.indented (level + 1)) := by
  obtain ⟨before, behind, rfl⟩ := List.append_of_mem mem
  have closes : Stops isWord (indentedMembers level behind) := by
    cases behind <;> exact stops_cons.mpr (by decide)
  obtain ⟨front, text⟩ : ∃ front,
      (Value.object (before ++ (name, value) :: behind)).indented level =
        (front ++ [':', ' ']) ++ (value.indented (level + 1) ++ indentedMembers level behind) := by
    cases before with
    | nil => exact ⟨'{' :: newLine (level + 1) ++ quote name, by simp [Value.indented]⟩
    | cons first before =>
      obtain ⟨front, split⟩ := exists_indentedMembers_append level before
      exact ⟨'{' :: newLine (level + 1) ++ quote first.1 ++ [':', ' '] ++
        first.2.indented (level + 1) ++ front ++ ',' :: newLine (level + 1) ++ quote name,
        by simp [Value.indented, split, indentedMembers]⟩
  exact ⟨_, _, text, Stops.behind (by decide) (by decide) _, closes⟩

/-- An item of an array stands in the text of the array. -/
theorem stands_item {items : List Value} {item : Value} (mem : item ∈ items) (level : Nat) :
    Stands ((Value.array items).indented level) (item.indented (level + 1)) := by
  obtain ⟨before, behind, rfl⟩ := List.append_of_mem mem
  have closes : Stops isWord (indentedItems level behind) := by
    cases behind <;> exact stops_cons.mpr (by decide)
  obtain ⟨front, text⟩ : ∃ front, (Value.array (before ++ item :: behind)).indented level =
      (front ++ newLine (level + 1)) ++
        (item.indented (level + 1) ++ indentedItems level behind) := by
    cases before with
    | nil => exact ⟨['['], by simp [Value.indented]⟩
    | cons first before =>
      obtain ⟨front, split⟩ := exists_indentedItems_append level before
      exact ⟨'[' :: newLine (level + 1) ++ first.indented (level + 1) ++ front ++ [','],
        by simp [Value.indented, split, indentedItems]⟩
  exact ⟨_, _, text, Stops.behind (stops_newLine _) (List.cons_ne_nil _ _) _, closes⟩

end Json

namespace Scene

/-- Every element stands in the text of a scene. -/
theorem stands_element {graph : Graph} {item : Value} (mem : item ∈ elements graph) :
    Stands (render graph).toList (item.indented 2) := by
  have member : ("elements", Value.array (elements graph)) ∈
      [("type", .text "excalidraw"), ("version", .ofNat 2), ("source", .text "text2diagram"),
        ("elements", .array (elements graph)), ("appState", .object [])] := by
    simp
  rw [render, Value.pretty, String.toList_ofList]
  exact (stands_member member 0).trans (stands_item mem 1)

/-- The ends of an edge stand in the text of a scene. -/
theorem stands_ends {graph : Graph} {edge : Edge} (drawn : edge ∈ graph.edges) :
    Stands (render graph).toList ((ends edge).indented 3) := by
  obtain ⟨index, inside, rfl⟩ := List.mem_iff_getElem.mp drawn
  have element : arrow graph.edges[index] index ∈ elements graph :=
    List.mem_append_right _ (List.mem_mapIdx.mpr ⟨index, inside, rfl⟩)
  have data : ("customData", ends graph.edges[index]) ∈
      [("points", .array [Point.value ⟨0, 0⟩, Point.value ⟨arrowLength, 0⟩]),
        ("x", .ofNat (arrowPlace index).x), ("y", .ofNat (arrowPlace index).y),
        ("customData", ends graph.edges[index])] := by
    simp
  exact (stands_element element).trans (stands_member (List.mem_append_right _ data) 2)

/-- A scene writes every id as a string. -/
theorem stands_quote {graph : Graph} {id : String} (mem : id ∈ graph.ids) :
    Stands (render graph).toList (quote id) := by
  rcases Graph.mem_ids_iff.mp mem with ⟨node, drawn, rfl⟩ | ⟨edge, drawn, rfl | rfl⟩
  · obtain ⟨index, inside, rfl⟩ := List.mem_iff_getElem.mp drawn
    have element : rectangle graph.nodes[index] index ∈ elements graph :=
      List.mem_append_left _ (List.mem_mapIdx.mpr ⟨index, inside, rfl⟩)
    have id : ("id", Value.text graph.nodes[index].id) ∈
        header "rectangle" graph.nodes[index].id := by simp [header]
    exact (stands_element element).trans (stands_member (List.mem_append_left _ id) 2)
  · have source : ("source", Value.text edge.source) ∈
        [("source", .text edge.source), ("target", .text edge.target)] := by simp
    exact (stands_ends drawn).trans (stands_member (List.mem_append_left _ source) 3)
  · have target : ("target", Value.text edge.target) ∈
        [("source", .text edge.source), ("target", .text edge.target)] := by simp
    exact (stands_ends drawn).trans (stands_member (List.mem_append_left _ target) 3)

end Scene

/-! ## Renderers -/

namespace Renderer

/-- What a renderer writes for an id wherever the id is meant. -/
def mention (graph : Graph) : Renderer → String → List Char
  | .dot, id => (Dot.token id).toList
  | .excalidraw, id => quote id
  | _, id => (graph.identifier id).toList

/-- How a renderer writes an id itself: as a bare word of its notation, or escaped and in quotation
marks. -/
def spelling : Renderer → String → List Char
  | .mermaid, id => if isBare id then id.toList else (Mermaid.quoted id).toList
  | .dot, id => (Dot.token id).toList
  | .plantUml, id => if isBare id then id.toList else (PlantUml.quoted id).toList
  | .excalidraw, id => quote id

/-- Whether a renderer writes an id itself, and no label or identifier in its place. -/
def SpellsOut (diagram : Diagram) (graph : Graph) (id : String) : Renderer → Prop
  | .mermaid => isBare id = true ∨ diagram = .flow ∧ graph.IsCaption id
  | .plantUml => isBare id = true ∨ graph.IsCaption id
  | .dot => True
  | .excalidraw => True

/-- What a renderer writes for an id stands in every drawing of a graph with that id. -/
theorem stands_mention (renderer : Renderer) {graph : Graph} (diagram : Diagram)
    (direction : Direction) {id : String} (mem : id ∈ graph.ids) :
    Stands (renderer.render graph diagram direction).toList (renderer.mention graph id) := by
  cases renderer with
  | mermaid =>
    cases diagram with
    | flow => exact (Mermaid.mentions_flowchart graph direction).stands mem
    | entities => exact (Mermaid.mentions_entityDiagram graph).stands mem
  | dot => exact (Dot.mentions_lines graph direction).stands mem
  | plantUml => exact (PlantUml.mentions_lines graph).stands mem
  | excalidraw => exact Scene.stands_quote mem

/-- An id that a renderer writes itself stands in every drawing of a graph with it. -/
theorem stands_spelling (renderer : Renderer) {graph : Graph} {diagram : Diagram}
    (direction : Direction) {id : String} (mem : id ∈ graph.ids)
    (spells : renderer.SpellsOut diagram graph id) :
    Stands (renderer.render graph diagram direction).toList (renderer.spelling id) := by
  have mention := renderer.stands_mention diagram direction mem
  cases renderer with
  | mermaid =>
    cases bare : isBare id with
    | true =>
      simpa [spelling, Renderer.mention, bare, graph.identifier_of_isBare bare] using mention
    | false =>
      obtain ⟨rfl, caption⟩ := spells.resolve_left (by simp [bare])
      rw [spelling, bare, if_neg Bool.false_ne_true]
      exact Mermaid.stands_quoted direction (Graph.mem_declarations mem bare caption)
  | plantUml =>
    cases bare : isBare id with
    | true =>
      simpa [spelling, Renderer.mention, bare, graph.identifier_of_isBare bare] using mention
    | false =>
      have caption := spells.resolve_left (by simp [bare])
      rw [spelling, bare, if_neg Bool.false_ne_true]
      exact PlantUml.stands_quoted (Graph.mem_declarations mem bare caption)
  | dot | excalidraw => exact mention

/-- Every id of a node and every end of an edge stands in every drawing of their graph, under what
the renderer writes for it: in DOT texts and scenes the id itself, escaped as the notation asks for
it, and in the other notations its identifier, which is the id if that is a bare word. Any other id
stands escaped in flowcharts and PlantUML texts too, unless its nodes all show a label instead. -/
theorem render_shows_ids (renderer : Renderer) (graph : Graph) (diagram : Diagram)
    (direction : Direction) : ∀ id ∈ graph.ids,
    Stands (renderer.render graph diagram direction).toList (renderer.mention graph id) ∧
    (renderer.SpellsOut diagram graph id →
      Stands (renderer.render graph diagram direction).toList (renderer.spelling id)) :=
  fun _ mem => ⟨renderer.stands_mention diagram direction mem,
    renderer.stands_spelling direction mem⟩

/-- A node with a label, another one without, and an edge from that to no node. No id is a bare
word. -/
def market : Graph where
  nodes := [{ id := "café", label := some "Bar" }, { id := "maïs \"doux\"" }]
  edges := [{ source := "maïs \"doux\"", target := "gâteau" }]

/-- Ids that are captions stand in a flowchart beside their aliases, and the one with a label in a
scene. -/
theorem render_shows_market :
    "gâteau" ∈ market.ids ∧ market.IsCaption "gâteau" ∧
    market.IsCaption "maïs \"doux\"" ∧
    Stands (render .mermaid market .flow .down).toList "\"gâteau\"".toList ∧
    Stands (render .mermaid market .flow .down).toList "\"maïs #quot;doux#quot;\"".toList ∧
    Stands (render .mermaid market .flow .down).toList "caf_".toList ∧
    Stands (render .excalidraw market .flow .down).toList "\"café\"".toList := by
  have cake : market.IsCaption "gâteau" := by decide
  have corn : market.IsCaption "maïs \"doux\"" := by decide
  have flowchart := render_shows_ids .mermaid market .flow .down
  have scene := render_shows_ids .excalidraw market .flow .down
  exact ⟨by decide, cake, corn, (flowchart "gâteau" (by decide)).2 (.inr ⟨rfl, cake⟩),
    (flowchart "maïs \"doux\"" (by decide)).2 (.inr ⟨rfl, corn⟩),
    (flowchart "café" (by decide)).1, (scene "café" (by decide)).1⟩

/-- A label hides the id of its node wherever an alias stands for that, and an entity diagram hides
every id that is no bare word, with a label or without. -/
theorem render_hides_market :
    "café" ∈ market.ids ∧ "maïs \"doux\"" ∈ market.ids ∧
    ¬ (escapeWith Mermaid.escape "café").toList <:+:
      (render .mermaid market .flow .down).toList ∧
    ¬ (escapeWith PlantUml.escape "café").toList <:+:
      (render .plantUml market .flow .down).toList ∧
    ¬ (escapeWith Mermaid.escape "maïs \"doux\"").toList <:+:
      (render .mermaid market .entities .down).toList := by
  -- Each of the ids has a character that the text lacks.
  have flowchart : 'é' ∉ (Mermaid.render market .flow .down).toList := by
    rw [Mermaid.render, toList_joinLines]
    decide +kernel
  have plantUml : 'é' ∉ (PlantUml.render market).toList := by
    rw [PlantUml.render, toList_joinLines]
    decide +kernel
  have entities : 'ï' ∉ (Mermaid.render market .entities .down).toList := by
    rw [Mermaid.render, toList_joinLines]
    decide +kernel
  exact ⟨by decide, by decide,
    fun inside => flowchart (inside.subset (by decide +kernel)),
    fun inside => plantUml (inside.subset (by decide +kernel)),
    fun inside => entities (inside.subset (by decide +kernel))⟩

end Renderer
end PromptDiagram
