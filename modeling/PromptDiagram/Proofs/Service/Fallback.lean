import PromptDiagram.Proofs.Json.Values
import PromptDiagram.Proofs.Service.Accounting

/-!
# Falling back

A model that is of no use does not show. Whatever goes wrong with a chat, and also when it goes well
and brings a graph without nodes, the request is answered as if there were no model to ask, in every
header and in every character of the body. And a model does no harm: what is drawn without one is
drawn with one as well.
-/

namespace PromptDiagram

/-! ## Graphs -/

/-- A graph has nodes unless the list of them is empty. -/
theorem Graph.hasNodes_iff {graph : Graph} : graph.hasNodes = true ↔ graph.nodes ≠ [] := by
  simp [hasNodes]

namespace Extraction

/-- Whether what comes of an extraction is of no use: it failed, or its graph has no nodes. -/
inductive Unusable : Result → Prop
  | failed (failure : Failure) : Unusable (.error failure)
  | bare {graph : Graph} (empty : graph.nodes = []) : Unusable (.ok graph)

/-- What is of no use is passed over. -/
theorem firstUsable_of_unusable {result : Result} (unusable : Unusable result)
    (fallback : Graph) : firstUsable result fallback = fallback := by
  cases unusable with
  | failed failure => rfl
  | bare empty => simp [firstUsable, Graph.hasNodes, empty]

/-- Nodes to fall back on are given up for other nodes only. -/
theorem hasNodes_firstUsable (result : Result) {fallback : Graph}
    (nodes : fallback.hasNodes = true) : (firstUsable result fallback).hasNodes = true := by
  unfold firstUsable
  split
  · split <;> assumption
  · exact nodes

end Extraction

open Extraction

/-- Whether the next chat of an extractor brings nothing of use. -/
def Extractor.Fails (extractor : Extractor) : Prop :=
  ∀ prompt, Unusable (extract extractor.options prompt extractor.script).1

/-- Whether none of the chats to come brings anything of use. -/
def Extractor.Hopeless (extractor : Extractor) : Prop :=
  ∀ outcome ∈ extractor.script.outcomes, Unusable (ofOutcome outcome)

/-- Where nothing of use is to come, the next chat brings nothing of use. -/
theorem Extractor.Hopeless.fails {extractor : Extractor} (hopeless : extractor.Hopeless) :
    extractor.Fails := by
  intro prompt
  simp only [extract, Service.ask_outcome]
  cases next : extractor.script.outcomes with
  | nil => exact .failed _
  | cons outcome rest => exact hopeless outcome (by simp [next])

/-- Sufficient or not, a prompt is read as the graph that it spells out. -/
theorem Notation.read_cases (prompt : String) :
    read prompt = .sufficient (graph prompt.toList) ∨
      read prompt = .insufficient (graph prompt.toList) := by
  unfold read
  dsimp only
  split
  · exact .inl rfl
  · exact .inr rfl

/-- Without a model the graph of a prompt is the one that it spells out. -/
theorem graphOfPrompt_none (prompt : String) :
    (graphOfPrompt prompt none).1 = Notation.graph prompt.toList := by
  rcases Notation.read_cases prompt with read | read <;> simp only [graphOfPrompt, read]

/-- With a model the graph of a prompt is the one that it spells out, or the one that is preferred
to it. -/
theorem graphOfPrompt_some (prompt : String) (extractor : Extractor) :
    (graphOfPrompt prompt (some extractor)).1 = (graphOfPrompt prompt none).1 ∨
    (graphOfPrompt prompt (some extractor)).1 =
      firstUsable (extract extractor.options prompt extractor.script).1
        (graphOfPrompt prompt none).1 := by
  simp only [graphOfPrompt]
  cases Notation.read prompt with
  | sufficient graph => exact .inl rfl
  | insufficient graph => exact .inr rfl

/-- A chat that brings nothing of use makes no difference to the graph of a prompt. -/
theorem graphOfPrompt_of_fails (prompt : String) {extractor : Extractor}
    (fails : extractor.Fails) :
    (graphOfPrompt prompt (some extractor)).1 = (graphOfPrompt prompt none).1 := by
  rcases graphOfPrompt_some prompt extractor with same | preferred
  · exact same
  · rw [preferred, firstUsable_of_unusable (fails prompt)]

/-- A prompt that spells out a node has a graph with nodes, whatever becomes of a chat. -/
theorem hasNodes_graphOfPrompt {prompt : String}
    (nodes : (graphOfPrompt prompt none).1.hasNodes = true) (extractor : Option Extractor) :
    (graphOfPrompt prompt extractor).1.hasNodes = true := by
  cases extractor with
  | none => exact nodes
  | some extractor =>
    rcases graphOfPrompt_some prompt extractor with same | preferred
    · rwa [same]
    · rw [preferred]
      exact hasNodes_firstUsable _ nodes

namespace Service

open Settings

/-! ## One request -/

/-- An order for a known renderer is answered with a diagram exactly if there are nodes to draw. -/
theorem status_eq_ok_iff (order : Order) (renderer : Renderer) (graph : Graph) :
    (orderResponse (deliver order renderer graph)).status = 200 ↔ graph.hasNodes = true := by
  unfold deliver
  split <;> simp_all [orderResponse, json, Failure.status]

/-- An order for a known renderer is answered with what comes of its graph. -/
theorem respond_of_known (server : Server) {request : Request} {order : Order}
    {renderer : Renderer} (post : request.method = "POST") (path : request.path = "/generate")
    (brought : request.order = .ok order)
    (known : Renderer.ofName? order.renderer = some renderer) (extractor : Option Extractor) :
    (respond server request extractor).1 =
      (orderResponse (deliver order renderer
        (graphOfPrompt order.prompt extractor).1)).opened server request := by
  rw [respond_of_order server post path brought, generate_of_known known]

/-- A request that asks the model brings an order for a known renderer. -/
theorem exists_order_of_asksModel {request : Request} (asks : request.asksModel = true) :
    request.method = "POST" ∧ request.path = "/generate" ∧ ∃ order renderer,
      request.order = .ok order ∧ Renderer.ofName? order.renderer = some renderer := by
  simp only [Request.asksModel, Request.isOpenOrder, Bool.and_eq_true, beq_iff_eq] at asks
  obtain ⟨⟨post, path⟩, isOpen⟩ := asks
  refine ⟨post, path, ?_⟩
  split at isOpen
  · rename_i order brought
    simp only [Bool.and_eq_true, Option.isSome_iff_exists] at isOpen
    obtain ⟨⟨renderer, known⟩, -⟩ := isOpen
    exact ⟨order, renderer, brought, known⟩
  · simp at isOpen

/-- A request is answered the same with and without a model, or it brings an order for a known
renderer. -/
theorem same_or_known (server : Server) (request : Request) :
    (∀ extractor, (respond server request extractor).1 = (respond server request none).1) ∨
    ∃ order renderer, ∀ extractor, (respond server request extractor).1 =
      (orderResponse (deliver order renderer
        (graphOfPrompt order.prompt extractor).1)).opened server request := by
  cases asks : request.asksModel with
  | false =>
    obtain ⟨response, same⟩ := silent_respond server asks
    exact .inl fun extractor => by rw [same, same]
  | true =>
    obtain ⟨post, path, order, renderer, brought, known⟩ := exists_order_of_asksModel asks
    exact .inr ⟨order, renderer, respond_of_known server post path brought known⟩

/-- A chat that brings nothing of use makes no difference to the answer. -/
theorem respond_of_fails (server : Server) (request : Request) {extractor : Extractor}
    (fails : extractor.Fails) :
    (respond server request (some extractor)).1 = (respond server request none).1 := by
  rcases same_or_known server request with same | ⟨order, renderer, answer⟩
  · exact same _
  · rw [answer, answer, graphOfPrompt_of_fails _ fails]

/-- What is drawn without a model is drawn with one. -/
theorem status_of_status_none (server : Server) {request : Request}
    (drawn : (respond server request none).1.status = 200) (extractor : Option Extractor) :
    (respond server request extractor).1.status = 200 := by
  rcases same_or_known server request with same | ⟨order, renderer, answer⟩
  · rw [same, drawn]
  · rw [answer] at drawn ⊢
    exact (status_eq_ok_iff ..).mpr
      (hasNodes_graphOfPrompt ((status_eq_ok_iff ..).mp drawn) extractor)

/-- A prompt that spells out a node is drawn, whatever becomes of a chat. -/
theorem status_of_nodes (server : Server) {request : Request} {order : Order}
    {renderer : Renderer} (post : request.method = "POST") (path : request.path = "/generate")
    (brought : request.order = .ok order)
    (known : Renderer.ofName? order.renderer = some renderer)
    (nodes : (Notation.graph order.prompt.toList).nodes ≠ []) (extractor : Option Extractor) :
    (respond server request extractor).1.status = 200 := by
  rw [respond_of_known server post path brought known]
  refine (status_eq_ok_iff ..).mpr (hasNodes_graphOfPrompt ?_ extractor)
  rw [graphOfPrompt_none]
  exact Graph.hasNodes_iff.mpr nodes

/-! ## Runs -/

/-- A request takes no outcome or the next one, so nothing of use comes up that was not to come. -/
theorem hopeless_respond (server : Server) (request : Request) {extractor : Extractor}
    (hopeless : extractor.Hopeless) :
    ∃ next, (respond server request (some extractor)).2 = some next ∧ next.Hopeless := by
  cases asks : request.asksModel with
  | false =>
    obtain ⟨response, same⟩ := silent_respond server asks
    exact ⟨extractor, by rw [same], hopeless⟩
  | true =>
    obtain ⟨prompt, response, -, -, same⟩ := asksOnce_respond server asks
    refine ⟨_, by rw [same], fun outcome mem => hopeless outcome ?_⟩
    rw [ask_outcomes] at mem
    exact List.mem_of_mem_drop mem

/-- A run is answered as without a model if none of the chats brings anything of use. -/
theorem serve_of_hopeless (server : Server) (requests : List Request) {extractor : Extractor}
    (hopeless : extractor.Hopeless) :
    (serve server (some extractor) requests).map Prod.fst =
      (serve server none requests).map Prod.fst := by
  induction requests generalizing extractor with
  | nil => rfl
  | cons request rest ih =>
    obtain ⟨next, left, hopeless'⟩ := hopeless_respond server request hopeless
    simp only [serve, List.map_cons, left, respond_none, ih hopeless',
      respond_of_fails server request hopeless.fails]

/-- No client can tell a chat that brings nothing of use from a service without a model, nor one
such chat from another, over a whole run neither. A prompt that spells out a node is drawn whatever
becomes of a chat, and so is whatever is drawn without a model. -/
theorem respond_hides_failures (server : Server) :
    (∀ (request : Request) (extractor : Extractor), extractor.Fails →
      (respond server request (some extractor)).1 = (respond server request none).1) ∧
    (∀ (request : Request) (extractor other : Extractor), extractor.Fails → other.Fails →
      (respond server request (some extractor)).1 = (respond server request (some other)).1) ∧
    (∀ (requests : List Request) (extractor : Extractor), extractor.Hopeless →
      (serve server (some extractor) requests).map Prod.fst =
        (serve server none requests).map Prod.fst) ∧
    (∀ (request : Request) (order : Order) (renderer : Renderer) (extractor : Option Extractor),
      request.method = "POST" → request.path = "/generate" → request.order = .ok order →
      Renderer.ofName? order.renderer = some renderer →
      (Notation.graph order.prompt.toList).nodes ≠ [] →
      (respond server request extractor).1.status = 200) ∧
    (∀ (request : Request) (extractor : Option Extractor),
      (respond server request none).1.status = 200 →
      (respond server request extractor).1.status = 200) :=
  ⟨fun request _ fails => respond_of_fails server request fails,
    fun request _ _ fails fails' => by
      rw [respond_of_fails server request fails, respond_of_fails server request fails'],
    fun requests _ hopeless => serve_of_hopeless server requests hopeless,
    fun _ _ _ extractor post path brought known nodes =>
      status_of_nodes server post path brought known nodes extractor,
    fun _ extractor drawn => status_of_status_none server drawn extractor⟩

/-- An order whose prompt spells out a node and leaves the rest to the model. -/
def loneOrder : Request where
  method := "POST"
  target := "/generate"
  headers := [("content-type", "application/json")]
  body := "\x7b\"prompt\": \"NODES: a(A)\"\x7d".toUTF8.toList

/-- A provider that is broken. -/
def broken : Chat.Outcome :=
  .error (.status 500 "boom")

/-- A reply whose graph fits the schema and has no nodes. -/
def vacant : Chat.Outcome :=
  .ok (Chat.scriptedCompletion "\x7b\"nodes\": [], \"edges\": []\x7d")

/-- A broken provider and a graph without nodes look alike, and the node of the prompt is drawn. -/
theorem respond_hides_failures_lone :
    (untouched {} [broken]).Fails ∧ (untouched {} [vacant]).Hopeless ∧
    loneOrder.order = .ok { prompt := "NODES: a(A)" } ∧
    (Notation.graph "NODES: a(A)".toList).nodes ≠ [] ∧
    (respond Server.standard loneOrder none).1.status = 200 ∧
    (respond Server.standard loneOrder (some (untouched {} [broken]))).1 =
      (respond Server.standard loneOrder none).1 ∧
    (respond Server.standard loneOrder (some (untouched {} [broken]))).1 =
      (respond Server.standard loneOrder (some (untouched {} [vacant]))).1 ∧
    (serve Server.standard (some (untouched {} [vacant])) [loneOrder, loneOrder]).map Prod.fst =
      (serve Server.standard none [loneOrder, loneOrder]).map Prod.fst ∧
    (respond Server.standard loneOrder (some (untouched {} [broken]))).1.status = 200 ∧
    (respond Server.standard loneOrder (some (untouched {} [vacant]))).1.status = 200 := by
  have single {outcome : Chat.Outcome} (unusable : Unusable (ofOutcome outcome)) :
      (untouched {} [outcome]).Hopeless := by
    intro other mem
    obtain rfl : other = outcome := List.mem_singleton.mp mem
    exact unusable
  have failed : (untouched {} [broken]).Hopeless :=
    single (.failed (.provider (.status 500 "boom")))
  have empty : ofOutcome vacant = .ok Graph.empty :=
    Json.toOption_eq_some_iff.mp (by decide +kernel)
  have nothing : (untouched {} [vacant]).Hopeless := single (by rw [empty]; exact .bare rfl)
  have brought : loneOrder.order = .ok { prompt := "NODES: a(A)" } :=
    Json.toOption_eq_some_iff.mp (by decide +kernel)
  have nodes : (Notation.graph "NODES: a(A)".toList).nodes ≠ [] := by decide +kernel
  have drawn : (respond Server.standard loneOrder none).1.status = 200 := by decide +kernel
  have path : loneOrder.path = "/generate" := by decide +kernel
  have known : Renderer.ofName? Renderer.standard.name = some .mermaid := by decide
  obtain ⟨alone, alike, runs, kept, still⟩ := respond_hides_failures Server.standard
  exact ⟨failed.fails, nothing, brought, nodes, drawn, alone loneOrder _ failed.fails,
    alike loneOrder _ _ failed.fails nothing.fails, runs _ _ nothing,
    kept loneOrder { prompt := "NODES: a(A)" } .mermaid _ rfl path brought known nodes,
    still loneOrder _ drawn⟩

end Service
end PromptDiagram
