import PromptDiagram.Extraction
import PromptDiagram.Proofs.Extraction.Recovery
import PromptDiagram.Proofs.Extraction.Schema

/-!
# Graphs in replies

A model that answers with a graph as data is understood, whatever prose it puts around the graph.
The text of the graph is read back, it is told apart from the prose, and the graph passes the
checks of the schema as it is.
-/

namespace PromptDiagram

open Json Text Recovery

/-! ## Graphs as data -/

/-- A string or null is read back. -/
theorem fits_ofOption (room : Nat) (text : Option String) :
    (Value.ofOption text).fits room = true := by
  cases text <;> rfl

/-- Properties are read back within one more level than none. -/
theorem fits_propertiesValue (room : Nat) (props : Option (Dictionary String)) :
    (propertiesValue props).fits (room + 1) = true := by
  cases props with
  | none => rfl
  | some props =>
    apply fitMembers_iff.mpr
    intro member mem
    obtain ⟨entry, -, rfl⟩ := List.mem_map.mp mem
    rfl

/-- A node is read back. -/
theorem fits_nodeValue (room : Nat) (node : Node) : node.value.fits (room + 2) = true := by
  simp [Node.value, Value.fits, fitMembers, fits_ofOption, fits_propertiesValue]

/-- An edge is read back. -/
theorem fits_edgeValue (room : Nat) (edge : Edge) : edge.value.fits (room + 1) = true := by
  simp [Edge.value, Value.fits, fitMembers, fits_ofOption]

/-- A graph is read back. -/
theorem fits_graphValue (room : Nat) (graph : Graph) : graph.value.fits (room + 4) = true := by
  have nodes : fitItems (room + 2) (graph.nodes.map Node.value) = true := by
    apply fitItems_iff.mpr
    intro value mem
    obtain ⟨node, -, rfl⟩ := List.mem_map.mp mem
    exact fits_nodeValue room node
  have edges : fitItems (room + 2) (graph.edges.map Edge.value) = true := by
    apply fitItems_iff.mpr
    intro value mem
    obtain ⟨edge, -, rfl⟩ := List.mem_map.mp mem
    exact fits_edgeValue (room + 1) edge
  simp [Graph.value, Value.fits, fitMembers, nodes, edges]

/-- The members of an object are closed by a brace. -/
theorem getLast?_compactMembers (members : List (String × Value)) :
    (compactMembers members).getLast? = some '}' := by
  induction members with
  | nil => rfl
  | cons member members ih =>
    simp only [compactMembers, List.cons_append, List.getLast?_cons, List.getLast?_append, ih]
    rfl

/-- The text of an object with a member stands in braces. -/
theorem isBraced_object (name : String) (value : Value) (members : List (String × Value)) :
    IsBraced (Value.object ((name, value) :: members)).compact where
  first := rfl
  last := by
    simp only [Value.compact, List.cons_append, List.getLast?_cons, List.getLast?_append,
      getLast?_compactMembers]
    rfl

/-! ## Replies -/

/-- A reply that holds a graph amid prose is understood as the graph. -/
theorem replyGraph_amid {graph : Graph} (visible : graph.HasVisibleIds) {before after : String}
    (precedes : MayPrecede before.toList) (unclosed : '}' ∉ after.toList) :
    Extraction.replyGraph (before ++ graph.value.print ++ after) = .ok graph := by
  have text : before ++ graph.value.print ++ after =
      String.ofList (before.toList ++ graph.value.compact ++ after.toList) := by
    rw [String.ofList_append, String.ofList_append, String.ofList_toList, String.ofList_toList]
    rfl
  have recovered : Recovery.value (before ++ graph.value.print ++ after) = .ok graph.value := by
    rw [text]
    exact value_amid (parse_compact (fits_graphValue 123 graph)) nofun (isBraced_object _ _ _)
      precedes unclosed
  simp [Extraction.replyGraph, Extraction.replyValue, Extraction.valueGraph, recovered,
    Schema.validate_value visible, bind, Except.bind]

/-- A model that answers with a graph amid prose is understood: the graph comes out as it was, with
every field and in its order. The prose before it may hold anything but an opening brace and begins
neither like a list nor like a string, the prose behind it anything but a closing brace. -/
theorem extract_amid (graph : Graph) (visible : graph.HasVisibleIds) (before after : String)
    (precedes : MayPrecede before.toList) (unclosed : '}' ∉ after.toList)
    (options : Chat.Options) (prompt : String) (script : Chat.Script)
    (completion : Chat.Completion) (others : List Chat.Outcome)
    (answers : script.outcomes = .ok completion :: others)
    (text : completion.text = before ++ graph.value.print ++ after) :
    (Extraction.extract options prompt script).1 = .ok graph := by
  simp only [Extraction.extract, Chat.Script.ask, answers, Extraction.ofOutcome, text]
  exact replyGraph_amid visible precedes unclosed

/-- A graph whose texts hold braces, a quotation mark and a line feed. -/
def bracedGraph : Graph where
  nodes := [{
    id := "start \x7b", label := some "say \"go\"\n"
    props := some (Dictionary.ofList [("zone", "\x7d"), ("area", "")]) }]
  edges := [{ source := "start \x7b", target := "1", kind := some "call" }]

/-- The graph comes out of a reply in a code fence with braces around it that tell nothing. -/
theorem extract_bracedGraph :
    bracedGraph.HasVisibleIds ∧ MayPrecede "Closed \x7d, as asked:\n```json\n".toList ∧
    '}' ∉ "\n``` and \x7b open".toList ∧
    (Extraction.extract {} "draw" { outcomes := [.ok (Chat.scriptedCompletion
      ("Closed \x7d, as asked:\n```json\n" ++ bracedGraph.value.print ++
        "\n``` and \x7b open"))] }).1 = .ok bracedGraph := by
  have visible : bracedGraph.HasVisibleIds := ⟨by decide, by decide⟩
  have precedes : MayPrecede "Closed \x7d, as asked:\n```json\n".toList :=
    ⟨by decide, by simp [isBlank]⟩
  have unclosed : '}' ∉ "\n``` and \x7b open".toList := by decide
  exact ⟨visible, precedes, unclosed, extract_amid bracedGraph visible _ _ precedes unclosed {}
    "draw" _ _ [] rfl rfl⟩

end PromptDiagram
