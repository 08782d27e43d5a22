import PromptDiagram.Proofs.Graph.Data
import PromptDiagram.Proofs.Service.Fallback

/-!
# What clients receive

A delivery is read back from the body that it is sent in, text of the diagram, fenced block and
graph, and the three belong together: the text draws the graph that is sent along, as the order asks
for it. An order for an unknown renderer gets a body that names the renderer as it was asked for,
whatever characters that name has.
-/

namespace PromptDiagram.Service

open Json Json.Shape Settings

/-! ## Deliveries as data -/

/-- The delivery that the members of an object make. -/
def Delivery.ofMembers (members : List (String × Value)) : Option Delivery := do
  let code ← memberOf Value.text? members "code"
  let markdown ← memberOf Value.text? members "markdown"
  let graph ← memberOf (Value.object? Graph.ofMembers) members "graph"
  let code ← code
  let markdown ← markdown
  let graph ← graph
  return { code, markdown, graph }

namespace Delivery

/-- The code of a delivery has a place of its own. -/
theorem keeps_code : shape.Keeps "code" Draft.code readString :=
  keeps_fieldOf rfl (fun _ _ => rfl) (by simp [shape, spares_fieldOf])

/-- The fenced block of a delivery has a place of its own. -/
theorem keeps_markdown : shape.Keeps "markdown" Draft.markdown readString :=
  keeps_fieldOf rfl (fun _ _ => rfl) (by simp [shape, spares_fieldOf])

/-- The graph of a delivery has a place of its own. -/
theorem keeps_graph : shape.Keeps "graph" Draft.graph Graph.shape.reader :=
  keeps_fieldOf rfl (fun _ _ => rfl) (by simp [shape, spares_fieldOf])

/-- The fields of a delivery. -/
def slots : List (Slot Draft) := [
  ⟨"code", Draft.code, readString, Value.text?⟩,
  ⟨"markdown", Draft.markdown, readString, Value.text?⟩,
  ⟨"graph", Draft.graph, Graph.shape.reader, Value.object? Graph.ofMembers⟩]

/-- A delivery is read off an object with distinct names as its members make it, if its graph is. -/
theorem reads {members : List (String × Value)} (distinct : (members.map Prod.fst).Nodup)
    (graphs : ∀ value, ("graph", value) ∈ members →
      Reads Graph.shape.reader (Value.object? Graph.ofMembers) value) :
    Reads shape.reader (Value.object? ofMembers) (.object members) := by
  refine reads_object slots rfl ?_ (by simp [shape]) distinct ?_ ?_ ?_ <;>
    simp only [slots, List.forall_mem_cons, List.not_mem_nil, false_implies, implies_true, and_true]
  case refine_1 => exact ⟨keeps_code, keeps_markdown, keeps_graph⟩
  case refine_2 =>
    exact ⟨fun value _ => reads_string value, fun value _ => reads_string value, graphs⟩
  case refine_3 =>
    rintro ⟨_ | _, _ | _, _ | _⟩ ⟨code, markdown, graph⟩ <;>
      simp only [ofMembers, code, markdown, graph, Option.bind_eq_bind, Option.bind_some] <;>
      rfl
  case refine_4 => refine ⟨?_, ?_, ?_⟩ <;> intro missing <;> simp [ofMembers, missing]

/-- A delivery decodes to what it was written for. -/
theorem object?_value (delivery : Delivery) :
    Value.object? ofMembers delivery.value = some delivery := by
  rw [value, Value.object?]
  simp [ofMembers, memberOf, Value.member?, Dictionary.lookup_cons_eq_ite, Value.text?,
    Graph.object?_value]

/-- A delivery that is written is read as it decodes. -/
theorem reads_value (delivery : Delivery) :
    Reads shape.reader (Value.object? ofMembers) delivery.value := by
  refine reads (by simp) fun value mem => ?_
  obtain rfl : value = delivery.graph.value := by simpa using mem
  exact delivery.graph.reads_value

/-- A delivery is read back from its text. -/
theorem decodeText_print (delivery : Delivery) :
    decodeText shape.reader delivery.value.print.toList = .ok delivery := by
  have fits : delivery.value.fits greatestDepth = true := by
    simp [value, greatestDepth, Value.fits, fitMembers, fits_graphValue]
  rw [Value.print, String.toList_ofList]
  exact decodeText_compact fits delivery.reads_value delivery.object?_value

end Delivery

/-- The body of a failure is read back. -/
theorem Failure.parse_body (failure : Failure) :
    parse failure.body.print.toList = .ok failure.body := by
  rw [Value.print, String.toList_ofList]
  exact parse_compact rfl

/-! ## Answers -/

/-- The renderers are known by four names. -/
theorem ofName?_eq_none {name : String}
    (unknown : name ∉ ["mermaid", "dot", "plantuml", "excalidraw"]) :
    Renderer.ofName? name = none := by
  simp only [List.mem_cons, List.not_mem_nil, or_false, not_or] at unknown
  simp [Renderer.ofName?, Renderer.all, Renderer.name, Ne.symm, unknown]

/-- An order for an unknown renderer fails by the name of the renderer. -/
theorem respond_of_unknown (server : Server) {request : Request} {order : Order}
    (post : request.method = "POST") (path : request.path = "/generate")
    (brought : request.order = .ok order) (unknown : Renderer.ofName? order.renderer = none)
    (extractor : Option Extractor) :
    (respond server request extractor).1 =
      (orderResponse (.error (.unknownRenderer order.renderer))).opened server request := by
  simp only [respond_of_order server post path brought, generate, unknown]

/-- A text in a fenced block stands between two lines of its own. -/
theorem markdown_eq (renderer : Renderer) (code : String) :
    renderer.markdown code = "```" ++ renderer.fence ++ "\n" ++ code ++ "\n```" := by
  apply String.toList_inj.mp
  simp [Renderer.markdown, Text.toList_joinLines]

/-- What an order gets of a graph: the text that its renderer draws, the text in a fenced block, and
the graph. -/
def delivered (order : Order) (renderer : Renderer) (graph : Graph) : Delivery :=
  let code := renderer.render graph order.diagram (order.direction.getD .down)
  { code, markdown := renderer.markdown code, graph }

/-- A graph with nodes is delivered. -/
theorem deliver_eq_ok {order : Order} {renderer : Renderer} {graph : Graph}
    (nodes : graph.nodes ≠ []) :
    deliver order renderer graph = .ok (delivered order renderer graph) := by
  rw [deliver, if_pos (Graph.hasNodes_iff.mpr nodes)]
  rfl

/-- An order is answered with a diagram exactly if its renderer is known and its prompt has a graph
with nodes. -/
theorem status_respond_iff (server : Server) {request : Request} {order : Order}
    (post : request.method = "POST") (path : request.path = "/generate")
    (brought : request.order = .ok order) (extractor : Option Extractor) :
    (respond server request extractor).1.status = 200 ↔
      (∃ renderer, Renderer.ofName? order.renderer = some renderer) ∧
        (graphOfPrompt order.prompt extractor).1.nodes ≠ [] := by
  cases known : Renderer.ofName? order.renderer with
  | none =>
    rw [respond_of_unknown server post path brought known]
    simp [orderResponse, json, Failure.status]
  | some renderer =>
    rw [respond_of_known server post path brought known]
    simp [status_eq_ok_iff, Graph.hasNodes_iff]

/-- The body of an answer with a diagram is the text of what the order gets. -/
theorem body_respond (server : Server) {request : Request} {order : Order} {renderer : Renderer}
    {extractor : Option Extractor} (post : request.method = "POST")
    (path : request.path = "/generate") (brought : request.order = .ok order)
    (known : Renderer.ofName? order.renderer = some renderer)
    (nodes : (graphOfPrompt order.prompt extractor).1.nodes ≠ []) :
    (respond server request extractor).1.body =
      (delivered order renderer (graphOfPrompt order.prompt extractor).1).value.print := by
  simp only [respond_of_known server post path brought known, deliver_eq_ok nodes, orderResponse,
    Response.opened_body, json]

/-- An order is answered with a diagram exactly if its renderer is known and its prompt has a graph
with nodes. The body is then read as that graph, with the text that the renderer draws of it and the
text in a fenced block. If the renderer is none of the four, the body is read as an object that
names it. -/
theorem respond_delivers (server : Server) {request : Request} {order : Order}
    (post : request.method = "POST") (path : request.path = "/generate")
    (brought : request.order = .ok order) (extractor : Option Extractor) :
    let response := (respond server request extractor).1
    let graph := (graphOfPrompt order.prompt extractor).1
    (response.status = 200 ↔
      (∃ renderer, Renderer.ofName? order.renderer = some renderer) ∧ graph.nodes ≠ []) ∧
    (response.status = 200 → ∃ renderer delivery,
      Renderer.ofName? order.renderer = some renderer ∧
      decodeText Delivery.shape.reader response.body.toList = .ok delivery ∧
      delivery.graph = graph ∧ delivery.graph.nodes ≠ [] ∧
      delivery.code =
        renderer.render delivery.graph order.diagram (order.direction.getD .down) ∧
      delivery.markdown = "```" ++ renderer.fence ++ "\n" ++ delivery.code ++ "\n```") ∧
    (order.renderer ∉ ["mermaid", "dot", "plantuml", "excalidraw"] →
      response.status = 400 ∧
      parse response.body.toList = .ok (.object [
        ("code", .text "E_UNKNOWN_RENDERER"),
        ("detail", .text ("unknown renderer: " ++ order.renderer)),
        ("message", .text ("unknown renderer: " ++ order.renderer)),
        ("retryable", .bool false)])) := by
  intro response graph
  have drawn := status_respond_iff server post path brought extractor
  refine ⟨drawn, fun ok => ?_, fun unnamed => ?_⟩
  · obtain ⟨⟨renderer, known⟩, nodes⟩ := drawn.mp ok
    refine ⟨renderer, delivered order renderer graph, known, ?_, rfl, nodes, rfl, markdown_eq _ _⟩
    simp only [response, body_respond server post path brought known nodes]
    exact Delivery.decodeText_print _
  · have answer := respond_of_unknown server post path brought (ofName?_eq_none unnamed) extractor
    have body := Failure.parse_body (.unknownRenderer order.renderer)
    simp only [response, answer]
    exact ⟨rfl, body⟩

/-- An order for a renderer whose name holds quotation marks, a line feed and a control
character. -/
def oddOrder : Request where
  method := "POST"
  target := "/generate"
  headers := [("content-type", "application/json")]
  body := "\x7b\"prompt\": \"\", \"renderer\": \"\\\"svg\\\"\\n\\u0001\"\x7d".toUTF8.toList

/-- A drawn node is sent along with its diagram, and an odd name of a renderer comes back. -/
theorem respond_delivers_odd :
    loneOrder.order = .ok { prompt := "NODES: a(A)" } ∧
    oddOrder.order = .ok { prompt := "", renderer := "\"svg\"\n\x01" } ∧
    (respond Server.standard loneOrder none).1.status = 200 ∧
    (∃ renderer delivery, Renderer.ofName? "mermaid" = some renderer ∧
      decodeText Delivery.shape.reader (respond Server.standard loneOrder none).1.body.toList =
        .ok delivery ∧
      delivery.graph = (graphOfPrompt "NODES: a(A)" none).1 ∧ delivery.graph.nodes ≠ [] ∧
      delivery.code = renderer.render delivery.graph .flow .down ∧
      delivery.markdown = "```" ++ renderer.fence ++ "\n" ++ delivery.code ++ "\n```") ∧
    "\"svg\"\n\x01" ∉ ["mermaid", "dot", "plantuml", "excalidraw"] ∧
    (respond Server.standard oddOrder none).1.status = 400 ∧
    parse (respond Server.standard oddOrder none).1.body.toList = .ok (.object [
      ("code", .text "E_UNKNOWN_RENDERER"),
      ("detail", .text ("unknown renderer: " ++ "\"svg\"\n\x01")),
      ("message", .text ("unknown renderer: " ++ "\"svg\"\n\x01")),
      ("retryable", .bool false)]) := by
  have brought : loneOrder.order = .ok { prompt := "NODES: a(A)" } :=
    toOption_eq_some_iff.mp (by decide +kernel)
  have brought' : oddOrder.order = .ok { prompt := "", renderer := "\"svg\"\n\x01" } :=
    toOption_eq_some_iff.mp (by decide +kernel)
  have path : loneOrder.path = "/generate" := by decide +kernel
  have path' : oddOrder.path = "/generate" := by decide +kernel
  have drawn : (respond Server.standard loneOrder none).1.status = 200 := by decide +kernel
  have unknown : "\"svg\"\n\x01" ∉ ["mermaid", "dot", "plantuml", "excalidraw"] := by decide
  obtain ⟨-, delivers, -⟩ := respond_delivers Server.standard rfl path brought none
  obtain ⟨-, -, refused⟩ := respond_delivers Server.standard rfl path' brought' none
  exact ⟨brought, brought', drawn, delivers drawn, unknown, refused unknown⟩

end PromptDiagram.Service
