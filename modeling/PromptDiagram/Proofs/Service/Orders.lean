import PromptDiagram.Proofs.Json.Writing
import PromptDiagram.Proofs.Service.Accounting
import PromptDiagram.Proofs.Text.Utf8

/-!
# Orders by their texts

An order is posted as the text of an object. Its members may stand in any order, with any blanks and
any escapes, and members of other names may stand among them: what comes of the order depends on
nothing but what is ordered. A family, a renderer or a direction that is left out comes to the same
as the usual one, and so does a direction that is null. A repeated member, a prompt that is missing
and null in place of anything but a direction are refused before anyone is asked.
-/

namespace PromptDiagram.Service

open Json Json.Shape Settings Text

/-! ## The texts of orders -/

/-- The names of the members of an order. -/
def orderNames : List String := ["prompt", "diagram", "renderer", "direction"]

/-- The text of an order. The direction may be null, which comes to the same as leaving it out. -/
def SpellsOrder (order : Order) (text : List Char) : Prop :=
  ∃ members, SpellsObject members text ∧ AreMembers orderNames members ∧
    MayHave SpellsString members "prompt" (some order.prompt) ∧
    MayOmit (SpellsNamed Diagram.named) members "diagram" .flow order.diagram ∧
    MayOmit SpellsString members "renderer" "mermaid" order.renderer ∧
    MayHold (SpellsNamed Direction.named) members "direction" order.direction

/-- Whether two orders are for the same diagram: one of them may name the direction that the other
leaves to be the usual one. -/
structure Order.Agrees (order order' : Order) : Prop where
  prompt : order.prompt = order'.prompt
  diagram : order.diagram = order'.diagram
  renderer : order.renderer = order'.renderer
  direction : order.direction.getD .down = order'.direction.getD .down

/-- Whether members bring no order: one of them is repeated, there is no prompt, or null stands for
what must be given. -/
def BringNoOrder (members : List (String × List Char)) : Prop :=
  (∃ name ∈ orderNames, 1 < (members.map Prod.fst).count name) ∨
    "prompt" ∉ members.map Prod.fst ∨
    ∃ name ∈ ["prompt", "diagram", "renderer"], (name, nullText) ∈ members

/-- Whether a request posts a text to the route of orders, with any blanks around it. -/
structure Request.Posts (request : Request) (text : List Char) : Prop where
  post : request.method = "POST"
  path : request.path = "/generate"
  body : ∃ whole, Padded text whole ∧ request.body = encode whole

/-! ## Places of the fields -/

/-- The prompt of an order has a place of its own. -/
theorem Order.keeps_prompt : shape.Keeps "prompt" Draft.prompt readString :=
  keeps_fieldOf rfl (fun _ _ => rfl) (by simp [shape, spares_fieldOf])

/-- The family of an order has a place of its own. -/
theorem Order.keeps_diagram :
    shape.Keeps "diagram" Draft.diagram (readNamed Diagram.named) :=
  keeps_fieldOf rfl (fun _ _ => rfl) (by simp [shape, spares_fieldOf])

/-- The renderer of an order has a place of its own. -/
theorem Order.keeps_renderer : shape.Keeps "renderer" Draft.renderer readString :=
  keeps_fieldOf rfl (fun _ _ => rfl) (by simp [shape, spares_fieldOf])

/-- The direction of an order has a place of its own. -/
theorem Order.keeps_direction :
    shape.Keeps "direction" Draft.direction (readOption (readNamed Direction.named)) :=
  keeps_fieldOf rfl (fun _ _ => rfl) (by simp [shape, spares_fieldOf])

/-- No field of an order is given to begin with. -/
theorem Order.startsBlank : shape.StartsBlank := by
  simp [StartsBlank, shape]

/-! ## Reading orders -/

variable {order order' : Order} {text text' : List Char}

/-- A direction that may be null is read. -/
theorem readsAs_optionalDirection (direction : Option Direction) (text : List Char)
    (spells : SpellsOption (SpellsNamed Direction.named) direction text) :
    ReadsAs (readOption (readNamed Direction.named)) direction text :=
  spells.readsAs (refusesNull_readNamed _) readsAs_named

/-- An order is read from its text. -/
theorem readsAs_order (spells : SpellsOrder order text) :
    ReadsAs Order.shape.reader order text := by
  obtain ⟨members, object, are, prompt, ⟨_, diagram, diagramIs⟩, ⟨_, renderer, rendererIs⟩, _,
    direction, directionIs⟩ := spells
  have once {name : String} (known : name ∈ orderNames) := are.once name known
  have string (s : String) (text : List Char) (spells : SpellsString s text) :
      ReadsAs readString s text := readsAs_string spells
  refine readsAs object are rfl ?_ Order.startsBlank fun final holds => ?_
  · simp only [orderNames, List.forall_mem_cons, List.not_mem_nil, false_implies, implies_true,
      and_true]
    exact ⟨Order.keeps_prompt.fits string (once (by decide)) prompt,
      Order.keeps_diagram.fits readsAs_named (once (by decide)) diagram,
      Order.keeps_renderer.fits string (once (by decide)) renderer,
      Order.keeps_direction.fits readsAs_optionalDirection (once (by decide)) direction⟩
  · have promptHeld := holds.place_eq Order.keeps_prompt string prompt
    have diagramHeld := holds.place_eq Order.keeps_diagram readsAs_named diagram
    have rendererHeld := holds.place_eq Order.keeps_renderer string renderer
    have directionHeld :=
      holds.place_eq Order.keeps_direction readsAs_optionalDirection direction
    have names : Renderer.standard.name = "mermaid" := rfl
    simp only [Order.shape, promptHeld, diagramHeld, rendererHeld, directionHeld, names,
      Diagram.standard, diagramIs, rendererIs, directionIs]
    rfl

/-- Nothing is read of members that bring no order. -/
theorem reader_ne_ok {members : List (String × List Char)} (spells : SpellsObject members text)
    (json : ∀ member ∈ members, IsJson member.2) (faulty : BringNoOrder members)
    {outline : Outline} (is : outline.IsOf text) : Order.shape.reader outline ≠ .ok order := by
  intro done
  have values : ∀ member ∈ members, ∃ property, Gives member.2 property :=
    fun member mem => ⟨_, (json member mem).gives⟩
  have once {β : Type} {name : String} {place : Order.Draft → Option β} {read : Reader β}
      (keeps : Order.shape.Keeps name place read) : (members.map Prod.fst).count name ≤ 1 :=
    (gives_once keeps spells values).holds is order done
  obtain ⟨final, holds, finished⟩ :=
    (gives_holds Order.shape spells values Order.startsBlank).holds is order done
  rcases faulty with ⟨name, known, twice⟩ | missing | ⟨name, known, null⟩
  case inl =>
    simp only [orderNames, List.mem_cons, List.not_mem_nil, or_false] at known
    rcases known with rfl | rfl | rfl | rfl
    · exact absurd (once Order.keeps_prompt) (Nat.not_le.mpr twice)
    · exact absurd (once Order.keeps_diagram) (Nat.not_le.mpr twice)
    · exact absurd (once Order.keeps_renderer) (Nat.not_le.mpr twice)
    · exact absurd (once Order.keeps_direction) (Nat.not_le.mpr twice)
  case inr.inl =>
    have vacant := (holds Order.keeps_prompt).1 missing
    simp only [Order.shape, vacant] at finished
    cases finished
  case inr.inr =>
    simp only [List.mem_cons, List.not_mem_nil, or_false] at known
    rcases known with rfl | rfl | rfl
    · exact holds.null_not_mem Order.keeps_prompt refusesNull_readString null
    · exact holds.null_not_mem Order.keeps_diagram (refusesNull_readNamed _) null
    · exact holds.null_not_mem Order.keeps_renderer refusesNull_readString null

/-! ## Requests with orders -/

variable {request request' : Request}

/-- The body of a request that posts a text is read as the text is. -/
theorem Request.Posts.decodeBytes {property : Outline → Prop} (posts : request.Posts text)
    (gives : Gives text property) : ∃ outline, outline.IsOf text ∧
      ∀ {α : Type} (read : Reader α),
        (decodeBytes read request.body).toOption = (read outline).toOption := by
  obtain ⟨whole, padded, body⟩ := posts.body
  obtain ⟨outline, is, decoded⟩ := gives.decodeSymbols padded
  refine ⟨outline, is, fun read => ?_⟩
  rw [Json.decodeBytes, body, decode_encode, decoded]
  cases read outline <;> rfl

/-- A request that posts the text of an order brings the order. -/
theorem Request.order_of_posts (posts : request.Posts text) (taken : request.IsTaken)
    (spells : SpellsOrder order text) : request.order = .ok order := by
  have reads := readsAs_order spells
  obtain ⟨outline, is, decoded⟩ := posts.decodeBytes reads
  rw [order_eq_ok_iff, ← toOption_eq_some_iff, decoded, reads.holds is]
  exact ⟨taken, rfl⟩

/-- A request that posts members that bring no order brings none. -/
theorem Request.exists_refusal (posts : request.Posts text)
    {members : List (String × List Char)} (spells : SpellsObject members text)
    (json : ∀ member ∈ members, IsJson member.2) (faulty : BringNoOrder members) :
    ∃ response, request.order = .error response := by
  obtain ⟨outline, is, decoded⟩ := posts.decodeBytes (spells.isJson json).gives
  cases brought : request.order with
  | error response => exact ⟨response, rfl⟩
  | ok order =>
    have done := toOption_eq_some_iff.mpr (order_eq_ok_iff.mp brought).2
    rw [decoded] at done
    exact absurd (toOption_eq_some_iff.mp done) (reader_ne_ok spells json faulty is)

/-- Orders that agree are carried out alike. -/
theorem generate_of_agrees (agrees : order.Agrees order') : generate order = generate order' := by
  funext extractor
  simp only [generate, deliver, agrees.prompt, agrees.renderer, agrees.diagram, Direction.standard,
    agrees.direction]

/-- A request that posts the text of an order brings the order, and what comes of it depends on
nothing but the order: requests that post texts of orders that agree, in whatever way these are
written, have the same status and body for an answer and leave the same extractor, and the direction
need not be named to be the usual one. A request that posts an object with a repeated member,
without a prompt, or with null in place of a prompt, a family or a renderer is refused as a fault of
its own, and no extractor is asked. -/
theorem respond_by_order :
    (∀ order text request, SpellsOrder order text → Request.Posts request text →
      request.IsTaken → request.order = .ok order) ∧
    (∀ order order' text text' request request', order.Agrees order' →
      SpellsOrder order text → SpellsOrder order' text' →
      Request.Posts request text → Request.Posts request' text' →
      request.IsTaken → request'.IsTaken → ∀ server server' extractor,
      let answered := respond server request extractor
      let answered' := respond server' request' extractor
      answered.1.status = answered'.1.status ∧ answered.1.body = answered'.1.body ∧
        answered.2 = answered'.2) ∧
    (∀ members text request, SpellsObject members text → (∀ member ∈ members, IsJson member.2) →
      BringNoOrder members → Request.Posts request text → ∀ server extractor,
      let answered := respond server request extractor
      400 ≤ answered.1.status ∧ answered.1.status < 500 ∧ answered.2 = extractor) := by
  refine ⟨fun order text request spells posts taken => request.order_of_posts posts taken spells,
    fun order order' text text' request request' agrees spells spells' posts posts' taken taken'
      server server' extractor => ?same,
    fun members text request spells json faulty posts server extractor => ?refused⟩
  case same =>
    have brought := request.order_of_posts posts taken spells
    have brought' := request'.order_of_posts posts' taken' spells'
    rw [respond_of_order server posts.post posts.path brought,
      respond_of_order server' posts'.post posts'.path brought', generate_of_agrees agrees]
    exact ⟨rfl, rfl, rfl⟩
  case refused =>
    obtain ⟨response, refused⟩ := request.exists_refusal posts spells json faulty
    obtain ⟨status, fault, body, rfl⟩ := exists_plain_of_order_eq_error refused
    have range : ∀ status ∈ [400, 413, 415, 422], 400 ≤ status ∧ status < 500 := by decide
    rw [respond_of_order_eq_error server posts.post posts.path refused]
    exact ⟨(range status fault).1, (range status fault).2, rfl⟩

/-- A request that posts a text with blanks around it. -/
def postOf (text : List Char) : Request where
  method := "POST"
  target := "/generate"
  headers := [("Content-Type", "application/json")]
  body := encode ([' '] ++ (text ++ ['\n']))

/-- A request that posts a text does. -/
theorem posts_postOf (text : List Char) : Request.Posts (postOf text) text where
  post := rfl
  path := (by decide +kernel : Request.path ⟨"POST", "/generate", [], []⟩ = "/generate")
  body := ⟨_, .mk (by simp [AreSpaces, isSpace]) (by simp [AreSpaces, isSpace]), rfl⟩

/-- The members of an order that leaves everything but the prompt to the usual. -/
def briefMembers : List (String × Value) := [("prompt", .text "a \"cache\"")]

/-- The order of the brief members. -/
def briefOrder : Order := { prompt := "a \"cache\"" }

/-- The members of the same order with the usual written out, in another order and with a member of
another name. -/
def fullMembers : List (String × Value) := [
  ("direction", .text "TD"), ("note", .array [.object [("prompt", .null)]]),
  ("renderer", .text "mermaid"), ("prompt", .text "a \"cache\""), ("diagram", .text "flow")]

/-- The members of an order with its prompt given twice. -/
def doubledMembers : List (String × Value) := briefMembers ++ briefMembers

/-- The brief members are those of the brief order. -/
theorem spellsOrder_brief :
    SpellsOrder briefOrder ((Value.object briefMembers).laid .dense 0) :=
  ⟨_, spellsObject_laid .dense 0 _, areMembers_laid .dense 0 (by decide) rfl,
    .given (.head _) (spellsString_quote _), ⟨none, .absent (by decide), rfl⟩,
    ⟨none, .absent (by decide), rfl⟩, ⟨none, .absent (by decide), rfl⟩⟩

/-- The full members are those of the brief order with its direction named. -/
theorem spellsOrder_full :
    SpellsOrder { briefOrder with direction := some .down }
      ((Value.object fullMembers).laid .airy 0) :=
  ⟨_, spellsObject_laid .airy 0 _, areMembers_laid .airy 0 (by decide) rfl,
    .given (.tail _ (.tail _ (.tail _ (.head _)))) (spellsString_quote _),
    ⟨some .flow, .given (.tail _ (.tail _ (.tail _ (.tail _ (.head _)))))
      (.string rfl (spellsString_quote "flow")), rfl⟩,
    ⟨some "mermaid", .given (.tail _ (.tail _ (.head _))) (spellsString_quote _), rfl⟩,
    ⟨some (some .down), .given (.head _) (.given (.string rfl (spellsString_quote "TD"))), rfl⟩⟩

/-- The brief order and the full one are the same to the model, whose one reply is used up either
way, and the doubled one leaves the model alone. -/
theorem respond_by_order_brief :
    let brief := postOf ((Value.object briefMembers).laid .dense 0)
    let full := postOf ((Value.object fullMembers).laid .airy 0)
    let doubled := postOf ((Value.object doubledMembers).laid .dense 0)
    let model := some (untouched {} [.ok (Chat.scriptedCompletion "no graph")])
    brief.order = .ok briefOrder ∧
    (respond Server.standard brief model).1.body = (respond Server.standard full model).1.body ∧
    (respond Server.standard brief model).2 = (respond Server.standard full model).2 ∧
    (respond Server.standard doubled model).1.status < 500 ∧
    (respond Server.standard doubled model).2 = model := by
  intro brief full doubled model
  obtain ⟨brings, same, refuses⟩ := respond_by_order
  have takenBrief : brief.IsTaken := ⟨by decide +kernel, by decide +kernel⟩
  have takenFull : full.IsTaken := ⟨by decide +kernel, by decide +kernel⟩
  have order := brings briefOrder _ brief spellsOrder_brief (posts_postOf _) takenBrief
  obtain ⟨-, body, extractor⟩ := same briefOrder { briefOrder with direction := some .down } _ _
    brief full ⟨rfl, rfl, rfl, rfl⟩ spellsOrder_brief spellsOrder_full (posts_postOf _)
    (posts_postOf _) takenBrief takenFull Server.standard Server.standard model
  have json : AreMembers [] (laidTexts .dense 0 doubledMembers) :=
    areMembers_laid .dense 0 (by simp) rfl
  obtain ⟨-, status, left⟩ := refuses (laidTexts .dense 0 doubledMembers) _ doubled
    (spellsObject_laid .dense 0 doubledMembers)
    (fun member mem => json.others member mem List.not_mem_nil)
    (.inl ⟨"prompt", by decide, by decide⟩) (posts_postOf _) Server.standard model
  exact ⟨order, body, extractor, status, left⟩

end PromptDiagram.Service
