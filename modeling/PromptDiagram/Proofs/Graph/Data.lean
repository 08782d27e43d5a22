import PromptDiagram.Proofs.Extraction.Decoding
import PromptDiagram.Proofs.Extraction.Reply

/-!
# Graphs as data are read back

A graph that is written as data is decoded as it was, with every field and in its order. Nothing is
asked of the graph: blank ids, repeated ids and ends that are no nodes come back as well as others.
-/

namespace PromptDiagram

open Json

/-! ## Values that are written -/

namespace Json

variable {α : Type}

/-- Values that decode to what they were made from decode one by one. -/
theorem mapM_map_eq_some {β : Type} {decode : β → Option α} {value : α → β} {items : List α}
    (decodes : ∀ item ∈ items, decode (value item) = some item) :
    (items.map value).mapM decode = some items := by
  induction items with
  | nil => rfl
  | cons item items ih =>
    rw [List.map_cons, List.mapM_cons, decodes item List.mem_cons_self,
      ih fun item mem => decodes item (List.mem_cons_of_mem _ mem)]
    rfl

/-- What is written without blanks is decoded as the value that is written. -/
theorem decodeText_compact {read : Reader α} {decode : Value → Option α} {value : Value} {a : α}
    (fits : value.fits greatestDepth = true) (reads : Reads read decode value)
    (decodes : decode value = some a) : decodeText read value.compact = .ok a := by
  obtain ⟨outline, made, decoded⟩ := exists_outline_of_parse (parse_compact fits)
  rw [decoded, ← toOption_eq_some_iff, reads _ _ made, decodes]

/-- An array is without repetitions if its elements are. -/
theorem unrepeated_array {items : List Value} (each : ∀ item ∈ items, item.unrepeated = true) :
    (Value.array items).unrepeated = true := by
  rw [Value.unrepeated]
  induction items with
  | nil => rfl
  | cons item items ih =>
    rw [unrepeatedItems, each item List.mem_cons_self,
      ih fun item mem => each item (List.mem_cons_of_mem _ mem)]
    rfl

/-- An object with distinct names is without repetitions if its members are. -/
theorem unrepeated_object {members : List (String × Value)}
    (distinct : (members.map Prod.fst).Nodup)
    (each : ∀ member ∈ members, member.2.unrepeated = true) :
    (Value.object members).unrepeated = true := by
  simp only [Value.unrepeated, Bool.and_eq_true, decide_eq_true_eq]
  refine ⟨distinct, ?_⟩
  clear distinct
  induction members with
  | nil => rfl
  | cons member members ih =>
    rw [unrepeatedMembers, each member List.mem_cons_self,
      ih fun member mem => each member (List.mem_cons_of_mem _ mem)]
    rfl

/-- A string or null is without repetitions. -/
theorem unrepeated_ofOption (text : Option String) : (Value.ofOption text).unrepeated = true := by
  cases text <;> rfl

/-- A string or null decodes to the text that it was written for. -/
theorem optionalText_ofOption (text : Option String) :
    Value.option? Value.text? (Value.ofOption text) = some text := by
  cases text <;> rfl

end Json

/-! ## Properties -/

/-- Properties decode to what they were written for. -/
theorem dictionary?_propertiesValue (props : Option (Dictionary String)) :
    Value.option? (Value.dictionary? Value.text?) (propertiesValue props) = some props := by
  cases props with
  | none => rfl
  | some props =>
    have entries : (props.entries.map fun entry => (entry.1, Value.text entry.2)).mapM
        (Value.pair? Value.text?) = some props.entries := mapM_map_eq_some fun _ _ => rfl
    have read : Value.dictionary? Value.text? (propertiesValue (some props)) = some props :=
      calc
        _ = (some props.entries).map Dictionary.ofList := congrArg _ entries
        _ = some props := by rw [Option.map_some, Dictionary.ofList_entries]
    exact congrArg (Option.map some) read

/-- Properties are written under distinct names. -/
theorem unrepeated_propertiesValue (props : Option (Dictionary String)) :
    (propertiesValue props).unrepeated = true := by
  cases props with
  | none => rfl
  | some props =>
    apply unrepeated_object
    · have ascending := props.ascending.imp fun before => String.ne_of_lt before
      simpa [List.Nodup, List.pairwise_map] using ascending
    · intro member mem
      obtain ⟨entry, -, rfl⟩ := List.mem_map.mp mem
      rfl

/-! ## Nodes and edges -/

/-- A node decodes to what it was written for. -/
theorem Node.object?_value (node : Node) : Value.object? ofMembers node.value = some node := by
  simp [value, Value.object?, ofMembers, memberOf, Value.member?, Dictionary.lookup_cons_eq_ite,
    Value.text?, optionalText_ofOption, dictionary?_propertiesValue]

/-- An edge decodes to what it was written for. -/
theorem Edge.object?_value (edge : Edge) : Value.object? ofMembers edge.value = some edge := by
  simp [value, Value.object?, ofMembers, memberOf, Value.member?, Dictionary.lookup_cons_eq_ite,
    Value.text?, optionalText_ofOption]

/-- A node is written without repetitions. -/
theorem Node.unrepeated_value (node : Node) : node.value.unrepeated = true := by
  apply unrepeated_object (by simp)
  simp [unrepeated_ofOption, unrepeated_propertiesValue, Value.unrepeated]

/-- An edge is written without repetitions. -/
theorem Edge.unrepeated_value (edge : Edge) : edge.value.unrepeated = true := by
  apply unrepeated_object (by simp)
  simp [unrepeated_ofOption, Value.unrepeated]

/-! ## Graphs -/

namespace Graph

/-- A graph decodes to what it was written for. -/
theorem object?_value (graph : Graph) : Value.object? ofMembers graph.value = some graph := by
  have nodes : (graph.nodes.map Node.value).mapM (Value.object? Node.ofMembers) =
      some graph.nodes := mapM_map_eq_some fun node _ => node.object?_value
  have edges : (graph.edges.map Edge.value).mapM (Value.object? Edge.ofMembers) =
      some graph.edges := mapM_map_eq_some fun edge _ => edge.object?_value
  simp [value, Value.object?, ofMembers, memberOf, Value.member?, Dictionary.lookup_cons_eq_ite,
    Value.list?, nodes, edges]

/-- A graph is written without repetitions. -/
theorem unrepeated_value (graph : Graph) : graph.value.unrepeated = true := by
  apply unrepeated_object (by simp)
  simp only [List.forall_mem_cons, List.not_mem_nil, false_implies, implies_true, and_true]
  constructor <;> apply unrepeated_array
  · simp [Node.unrepeated_value]
  · simp [Edge.unrepeated_value]

/-- A graph that is written is read as it decodes. -/
theorem reads_value (graph : Graph) :
    Reads Graph.shape.reader (Value.object? ofMembers) graph.value := by
  refine reads graph.unrepeated_value fun name named items written item mem => ?_
  simp only [List.mem_cons, List.not_mem_nil, or_false] at named
  rcases named with rfl | rfl
  · obtain rfl : graph.nodes.map Node.value = items :=
      Value.array.inj (Option.some.inj written)
    obtain ⟨node, -, rfl⟩ := List.mem_map.mp mem
    rfl
  · obtain rfl : graph.edges.map Edge.value = items :=
      Value.array.inj (Option.some.inj written)
    obtain ⟨edge, -, rfl⟩ := List.mem_map.mp mem
    rfl

end Graph
end PromptDiagram
