import PromptDiagram.Service.Http

/-!
# Requests that ask the model

A request asks the model only if it is an order that can be carried out and whose prompt does not
spell out enough. What a request does is said once: either it leaves the extractor alone and is
answered the same whatever the extractor is, or it asks once and its answer depends on nothing but
the outcome of that chat. Each function on the way from the prompt to the response keeps the one or
the other.
-/

namespace PromptDiagram.Service

open Settings

/-- Whether a prompt does not spell out enough. -/
def isInsufficient (prompt : String) : Bool :=
  match Notation.read prompt with
  | .sufficient _ => false
  | .insufficient _ => true

/-- Whether a request brings an order for a known renderer whose prompt does not spell out
enough. -/
def Request.isOpenOrder (request : Request) : Bool :=
  match request.order with
  | .ok order => (Renderer.ofName? order.renderer).isSome && isInsufficient order.prompt
  | .error _ => false

/-- Whether a request asks the model. -/
def Request.asksModel (request : Request) : Bool :=
  request.method == "POST" && request.path == "/generate" && request.isOpenOrder

/-- Whether the body of a request is looked at: it is said to be JSON and no longer than a body may
be. -/
structure Request.IsTaken (request : Request) : Prop where
  json : request.hasJson = true
  short : request.body.length ≤ greatestBody

/-- A request brings the order that its body decodes to, if its body is looked at. -/
theorem Request.order_eq_ok_iff {request : Request} {order : Order} : request.order = .ok order ↔
    request.IsTaken ∧ Json.decodeBytes Order.shape.reader request.body = .ok order := by
  unfold Request.order
  split
  · rename_i other
    constructor
    · intro brought
      cases brought
    · rintro ⟨taken, -⟩
      simp [taken.json] at other
  · rename_i json
    split
    · rename_i long
      constructor
      · intro brought
        cases brought
      · rintro ⟨taken, -⟩
        exact absurd taken.short (Nat.not_le.mpr long)
    · rename_i short
      have taken : request.IsTaken := ⟨by simpa using json, Nat.not_lt.mp short⟩
      rw [and_iff_right taken]
      cases Json.decodeBytes Order.shape.reader request.body <;> simp

/-- A prompt does not spell out enough if reading it says so. -/
theorem isInsufficient_iff {prompt : String} :
    isInsufficient prompt = true ↔ ∃ graph, Notation.read prompt = .insufficient graph := by
  unfold isInsufficient
  split <;> simp_all

/-- The requests that ask the model: an order is posted to its path, its body is looked at and can
be read, its renderer is known, and its prompt does not spell out enough. -/
theorem Request.asksModel_iff {request : Request} :
    request.asksModel = true ↔ request.method = "POST" ∧ request.path = "/generate" ∧
      request.IsTaken ∧ ∃ order, Json.decodeBytes Order.shape.reader request.body = .ok order ∧
        (∃ renderer, Renderer.ofName? order.renderer = some renderer) ∧
        ∃ graph, Notation.read order.prompt = .insufficient graph := by
  simp only [asksModel, isOpenOrder, Bool.and_eq_true, beq_iff_eq, and_assoc]
  refine and_congr_right fun _ => and_congr_right fun _ => ?_
  constructor
  · intro isOpen
    split at isOpen
    · rename_i order brought
      obtain ⟨taken, decoded⟩ := order_eq_ok_iff.mp brought
      simp only [Bool.and_eq_true, Option.isSome_iff_exists, isInsufficient_iff] at isOpen
      exact ⟨taken, order, decoded, isOpen⟩
    · cases isOpen
  · rintro ⟨taken, order, decoded, known, insufficient⟩
    rw [order_eq_ok_iff.mpr ⟨taken, decoded⟩]
    simpa [Option.isSome_iff_exists, isInsufficient_iff] using ⟨known, insufficient⟩

/-- A request with a wrong method, path, media type, body or renderer does not ask the model. -/
theorem asksModel_of_wrong {request : Request}
    (wrong : request.method ≠ "POST" ∨ request.path ≠ "/generate" ∨ request.hasJson = false ∨
      (∀ order, request.order ≠ .ok order) ∨
      (∃ order, request.order = .ok order ∧ Renderer.ofName? order.renderer = none)) :
    request.asksModel = false := by
  rw [Bool.eq_false_iff]
  intro asks
  obtain ⟨post, path, taken, order, decoded, ⟨renderer, known⟩, -⟩ := Request.asksModel_iff.mp asks
  have brought : request.order = .ok order := Request.order_eq_ok_iff.mpr ⟨taken, decoded⟩
  rcases wrong with method | elsewhere | media | body | ⟨other, same, unknown⟩
  · exact method post
  · exact elsewhere path
  · simp [taken.json] at media
  · exact body order brought
  · obtain rfl : order = other := Except.ok.inj (brought.symm.trans same)
    simp [known] at unknown

/-- What does not ask the model: it leaves every extractor as it is, and its result depends on
none. -/
def Silent {α : Type} (step : Option Extractor → α × Option Extractor) : Prop :=
  ∃ result, ∀ extractor, step extractor = (result, extractor)

/-- What asks the model once: its result depends on the outcome of that chat alone. Where there is
no model to ask, it does without. -/
def AsksOnce {α : Type} (step : Option Extractor → α × Option Extractor) : Prop :=
  ∃ (prompt : String) (result : Chat.Outcome → α) (alone : α), step none = (alone, none) ∧
    ∀ extractor : Extractor,
      let request := Extraction.request extractor.options prompt
      step (some extractor) = (result (extractor.script.ask request).1,
        some { extractor with script := (extractor.script.ask request).2 })

/-! ## Requests without an order -/

/-- A request that brings no order is told so in plain text, with the status of its fault. -/
theorem exists_plain_of_order_eq_error {request : Request} {response : Response}
    (refused : request.order = .error response) :
    ∃ status ∈ [400, 413, 415, 422], ∃ body, response = plain status body := by
  unfold Request.order at refused
  split at refused
  · exact ⟨415, by decide, _, (Except.error.inj refused).symm⟩
  · split at refused
    · exact ⟨413, by decide, _, (Except.error.inj refused).symm⟩
    · split at refused
      · cases refused
      · rename_i refusal _
        obtain rfl : refusalResponse refusal = response := Except.error.inj refused
        unfold refusalResponse
        split
        · exact ⟨422, by decide, _, rfl⟩
        · exact ⟨400, by decide, _, rfl⟩

/-! ## One step -/

/-- A sufficient prompt does not ask the model. -/
theorem silent_graphOfPrompt {prompt : String} (sufficient : isInsufficient prompt = false) :
    Silent (graphOfPrompt prompt) := by
  unfold isInsufficient at sufficient
  split at sufficient
  · rename_i graph read
    exact ⟨graph, fun extractor => by simp [graphOfPrompt, read]⟩
  · simp at sufficient

/-- An insufficient prompt asks the model once. -/
theorem asksOnce_graphOfPrompt {prompt : String} (insufficient : isInsufficient prompt = true) :
    AsksOnce (graphOfPrompt prompt) := by
  unfold isInsufficient at insufficient
  split at insufficient
  · simp at insufficient
  · rename_i graph read
    refine ⟨prompt, fun outcome => Extraction.firstUsable (Extraction.ofOutcome outcome) graph,
      graph, by simp [graphOfPrompt, read], fun extractor => ?_⟩
    simp [graphOfPrompt, read, Extraction.extract]

/-- What is made of a silent step's result is silent. -/
theorem Silent.map {α β : Type} {step : Option Extractor → α × Option Extractor}
    (silent : Silent step) (f : α → β) :
    Silent fun extractor => (f (step extractor).1, (step extractor).2) := by
  obtain ⟨result, same⟩ := silent
  exact ⟨f result, fun extractor => by simp only [same]⟩

/-- What is made of the result of a step that asks once asks once. -/
theorem AsksOnce.map {α β : Type} {step : Option Extractor → α × Option Extractor}
    (asks : AsksOnce step) (f : α → β) :
    AsksOnce fun extractor => (f (step extractor).1, (step extractor).2) := by
  obtain ⟨prompt, result, alone, without, same⟩ := asks
  exact ⟨prompt, fun outcome => f (result outcome), f alone, by simp only [without],
    fun extractor => by simp only [same]⟩

/-- An order for a known renderer is carried out by extracting a graph and delivering it. -/
theorem generate_of_known {order : Order} {renderer : Renderer}
    (known : Renderer.ofName? order.renderer = some renderer) :
    generate order = fun extractor =>
      (deliver order renderer (graphOfPrompt order.prompt extractor).1,
        (graphOfPrompt order.prompt extractor).2) := by
  funext extractor
  simp only [generate, known]

/-- An order for an unknown renderer does not ask the model, nor does one with a sufficient
prompt. -/
theorem silent_generate {order : Order}
    (closed : ((Renderer.ofName? order.renderer).isSome && isInsufficient order.prompt) = false) :
    Silent (generate order) := by
  cases known : Renderer.ofName? order.renderer with
  | none =>
    exact ⟨.error (.unknownRenderer order.renderer), fun extractor => by simp [generate, known]⟩
  | some renderer =>
    have sufficient : isInsufficient order.prompt = false := by simpa [known] using closed
    rw [generate_of_known known]
    exact (silent_graphOfPrompt sufficient).map (deliver order renderer)

/-- An order for a known renderer with an insufficient prompt asks the model once. -/
theorem asksOnce_generate {order : Order}
    (isOpen : ((Renderer.ofName? order.renderer).isSome && isInsufficient order.prompt) = true) :
    AsksOnce (generate order) := by
  simp only [Bool.and_eq_true, Option.isSome_iff_exists] at isOpen
  obtain ⟨⟨renderer, known⟩, insufficient⟩ := isOpen
  rw [generate_of_known known]
  exact (asksOnce_graphOfPrompt insufficient).map (deliver order renderer)

/-- A request that brings an order is answered with what comes of the order. -/
theorem respondToOrder_of_order {request : Request} {order : Order}
    (brought : request.order = .ok order) :
    respondToOrder request = fun extractor =>
      (orderResponse (generate order extractor).1, (generate order extractor).2) := by
  funext extractor
  simp only [respondToOrder, brought]

/-- A posted request that brings no open order does not ask the model. -/
theorem silent_respondToOrder {request : Request} (closed : request.isOpenOrder = false) :
    Silent (respondToOrder request) := by
  unfold Request.isOpenOrder at closed
  cases brought : request.order with
  | error response => exact ⟨response, fun extractor => by simp only [respondToOrder, brought]⟩
  | ok order =>
    simp only [brought] at closed
    rw [respondToOrder_of_order brought]
    exact (silent_generate closed).map orderResponse

/-- A posted request that brings an open order asks the model once. -/
theorem asksOnce_respondToOrder {request : Request} (isOpen : request.isOpenOrder = true) :
    AsksOnce (respondToOrder request) := by
  unfold Request.isOpenOrder at isOpen
  cases brought : request.order with
  | error response => simp [brought] at isOpen
  | ok order =>
    simp only [brought] at isOpen
    rw [respondToOrder_of_order brought]
    exact (asksOnce_generate isOpen).map orderResponse

/-- The route of orders is the route of one path. -/
theorem Route.ofPath?_eq_generate_iff {path : String} :
    Route.ofPath? path = some .generate ↔ path = "/generate" := by
  unfold Route.ofPath?
  split
  · rename_i same
    simpa using same
  · rename_i other
    split <;> simp_all

/-- A request that does not ask the model and is no preflight does not ask the model. -/
theorem silent_respondToPlain {request : Request} (closed : request.asksModel = false) :
    Silent (respondToPlain request) := by
  cases taken : Route.ofPath? request.path with
  | none => exact ⟨bare 404 [], fun extractor => by simp only [respondToPlain, taken]⟩
  | some route =>
    by_cases offered : route.methods.contains request.method = true
    · cases route with
      | health =>
        exact ⟨bare 200 [], fun extractor => by simp only [respondToPlain, taken, offered, if_true]⟩
      | generate =>
        have post : request.method = "POST" := by simpa [Route.methods] using offered
        have path := Route.ofPath?_eq_generate_iff.mp taken
        have unopened : request.isOpenOrder = false := by
          simpa [Request.asksModel, post, path] using closed
        have step : respondToPlain request = respondToOrder request := by
          funext extractor
          simp only [respondToPlain, taken, offered, if_true]
        rw [step]
        exact silent_respondToOrder unopened
    · exact ⟨bare 405 [route.allow], fun extractor => by
        simp only [respondToPlain, taken, offered, if_false, Bool.false_eq_true]⟩

/-- A request that is posted to the route of orders is answered there. -/
theorem respondToPlain_of_post {request : Request} (post : request.method = "POST")
    (path : request.path = "/generate") : respondToPlain request = respondToOrder request := by
  funext extractor
  simp [respondToPlain, Route.ofPath?_eq_generate_iff.mpr path, Route.methods, post]

/-- A request that asks the model asks it once. -/
theorem asksOnce_respondToPlain {request : Request} (asks : request.asksModel = true) :
    AsksOnce (respondToPlain request) := by
  simp only [Request.asksModel, Bool.and_eq_true, beq_iff_eq] at asks
  obtain ⟨⟨post, path⟩, opened⟩ := asks
  rw [respondToPlain_of_post post path]
  exact asksOnce_respondToOrder opened

/-- A response that says which origins may read it. -/
def Response.opened (response : Response) (server : Server) (request : Request) : Response :=
  { response with headers := originHeaders server request ++ response.headers }

/-- Saying which origins may read a response leaves its status. -/
@[simp]
theorem Response.opened_status (response : Response) (server : Server) (request : Request) :
    (response.opened server request).status = response.status := rfl

/-- Saying which origins may read a response leaves its body. -/
@[simp]
theorem Response.opened_body (response : Response) (server : Server) (request : Request) :
    (response.opened server request).body = response.body := rfl

/-- A request that is no preflight is answered by its route. -/
theorem respond_of_plain (server : Server) {request : Request}
    (plain : request.isPreflight = false) :
    respond server request = fun extractor =>
      ((respondToPlain request extractor).1.opened server request,
        (respondToPlain request extractor).2) := by
  funext extractor
  simp only [respond, plain, if_false, Bool.false_eq_true, Response.opened]

/-- An order that is posted is answered with what comes of it. -/
theorem respond_of_order (server : Server) {request : Request} {order : Order}
    (post : request.method = "POST") (path : request.path = "/generate")
    (brought : request.order = .ok order) :
    respond server request = fun extractor =>
      ((orderResponse (generate order extractor).1).opened server request,
        (generate order extractor).2) := by
  have plain : request.isPreflight = false := by simp [Request.isPreflight, post]
  rw [respond_of_plain server plain, respondToPlain_of_post post path,
    respondToOrder_of_order brought]

/-- A posted request that brings no order is told so, and no extractor is asked. -/
theorem respond_of_order_eq_error (server : Server) {request : Request} {response : Response}
    (post : request.method = "POST") (path : request.path = "/generate")
    (refused : request.order = .error response) :
    respond server request = fun extractor => (response.opened server request, extractor) := by
  have plain : request.isPreflight = false := by simp [Request.isPreflight, post]
  funext extractor
  rw [respond_of_plain server plain, respondToPlain_of_post post path]
  simp only [respondToOrder, refused]

/-- A request that does not ask the model leaves every extractor as it is, and its answer depends
on none. -/
theorem silent_respond (server : Server) {request : Request} (closed : request.asksModel = false) :
    Silent (respond server request) := by
  cases preflight : request.isPreflight with
  | true =>
    refine ⟨(preflightResponse request).opened server request, fun extractor => ?_⟩
    simp only [respond, preflight, if_true, Response.opened]
  | false =>
    rw [respond_of_plain server preflight]
    exact (silent_respondToPlain closed).map fun response => response.opened server request

/-- A request that asks the model asks it once, and its answer depends on the outcome of that chat
alone. -/
theorem asksOnce_respond (server : Server) {request : Request} (asks : request.asksModel = true) :
    AsksOnce (respond server request) := by
  have plain : request.isPreflight = false := by
    simp only [Request.asksModel, Bool.and_eq_true, beq_iff_eq] at asks
    simp [Request.isPreflight, asks.1.1]
  rw [respond_of_plain server plain]
  exact (asksOnce_respondToPlain asks).map fun response => response.opened server request

/-- A request without a model to ask leaves it so. -/
theorem respond_none (server : Server) (request : Request) :
    (respond server request none).2 = none := by
  cases asks : request.asksModel with
  | false =>
    obtain ⟨response, same⟩ := silent_respond server asks
    rw [same]
  | true =>
    obtain ⟨prompt, response, alone, without, -⟩ := asksOnce_respond server asks
    rw [without]

end PromptDiagram.Service
