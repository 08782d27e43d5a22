import PromptDiagram.Proofs.Service.Asking

/-!
# What runs of requests cost

Requests are answered one after the other, with one model for all of them. An extractor that was
asked a number of times has counted the chats and used up as many of the outcomes, and each request
of a run keeps this. So the chats of a run are the requests that ask the model, each takes the
outcome that is its own, and no answer depends on the rest of the run.
-/

namespace PromptDiagram.Service

open Settings

/-! ## Extractors that were asked -/

/-- An extractor that was not asked yet. -/
def untouched (options : Chat.Options) (outcomes : List Chat.Outcome) : Extractor where
  options := options
  script := { outcomes }

/-- The number of requests that ask the model. -/
def chats (requests : List Request) : Nat :=
  requests.countP Request.asksModel

/-- What a request that comes after a number of chats has of the outcomes: the next one if it asks
the model, else none. -/
def share (request : Request) (outcomes : List Chat.Outcome) (asked : Nat) : List Chat.Outcome :=
  if request.asksModel then outcomes[asked]?.toList else []

/-- An extractor that was asked a number of times: each time took the next of the outcomes. -/
structure Asked (extractor : Extractor) (options : Chat.Options)
    (outcomes : List Chat.Outcome) (times : Nat) : Prop where
  options_eq : extractor.options = options
  calls_eq : extractor.script.calls = times
  outcomes_eq : extractor.script.outcomes = outcomes.drop times

/-- An untouched extractor was asked no times. -/
theorem asked_untouched (options : Chat.Options) (outcomes : List Chat.Outcome) :
    Asked (untouched options outcomes) options outcomes 0 where
  options_eq := rfl
  calls_eq := rfl
  outcomes_eq := rfl

/-- A script answers with its next outcome, or fails if it is used up. -/
theorem ask_outcome (script : Chat.Script) (request : Chat.Request) :
    (script.ask request).1 = script.outcomes.head?.getD (.error Chat.exhausted) := by
  unfold Chat.Script.ask
  split <;> simp_all

/-- A script that answers drops its next outcome. -/
theorem ask_outcomes (script : Chat.Script) (request : Chat.Request) :
    (script.ask request).2.outcomes = script.outcomes.drop 1 := by
  unfold Chat.Script.ask
  split <;> simp_all

/-- A script counts each chat. -/
theorem ask_calls (script : Chat.Script) (request : Chat.Request) :
    (script.ask request).2.calls = script.calls + 1 := by
  unfold Chat.Script.ask
  split <;> simp_all

/-- An extractor that is asked was asked once more. -/
theorem Asked.ask {extractor : Extractor} {options : Chat.Options}
    {outcomes : List Chat.Outcome} {times : Nat} (asked : Asked extractor options outcomes times)
    (request : Chat.Request) :
    Asked { extractor with script := (extractor.script.ask request).2 } options outcomes
      (times + 1) where
  options_eq := asked.options_eq
  calls_eq := by rw [ask_calls, asked.calls_eq]
  outcomes_eq := by rw [ask_outcomes, asked.outcomes_eq, List.drop_drop]

/-- The outcome that an extractor gives next is the one that an untouched extractor gives that has
no other. -/
theorem Asked.outcome_eq {extractor : Extractor} {options : Chat.Options}
    {outcomes : List Chat.Outcome} {times : Nat} (asked : Asked extractor options outcomes times)
    (request request' : Chat.Request) :
    (extractor.script.ask request).1 =
      ((untouched options outcomes[times]?.toList).script.ask request').1 := by
  rw [ask_outcome, ask_outcome, asked.outcomes_eq, List.head?_drop]
  cases outcomes[times]? <;> rfl

/-- One request of a run: the count grows by one exactly if the request asks the model, and its
answer is the one that it has alone with its share of the outcomes. -/
theorem respond_of_asked (server : Server) (request : Request) {extractor : Extractor}
    {options : Chat.Options} {outcomes : List Chat.Outcome} {times : Nat}
    (asked : Asked extractor options outcomes times) :
    (∃ next, (respond server request (some extractor)).2 = some next ∧
      Asked next options outcomes (times + chats [request])) ∧
    (respond server request (some extractor)).1 =
      (respond server request (some (untouched options (share request outcomes times)))).1 := by
  cases asks : request.asksModel with
  | false =>
    obtain ⟨response, same⟩ := silent_respond server asks
    simp only [same, chats, List.countP_cons, List.countP_nil, asks]
    exact ⟨⟨extractor, rfl, asked⟩, trivial⟩
  | true =>
    obtain ⟨prompt, response, -, -, same⟩ := asksOnce_respond server asks
    simp only [same, chats, share, List.countP_cons, List.countP_nil, asks, if_true]
    exact ⟨⟨_, rfl, asked.ask _⟩, congrArg response (asked.outcome_eq _ _)⟩

/-- A run from an extractor that was asked before. -/
theorem serve_of_asked (server : Server) {options : Chat.Options} {outcomes : List Chat.Outcome}
    {requests : List Request} {extractor : Extractor} {times : Nat}
    (asked : Asked extractor options outcomes times) {n : Nat} {request : Request}
    {answered : Response × Option Extractor} (sent : requests[n]? = some request)
    (received : (serve server (some extractor) requests)[n]? = some answered) :
    (∃ next, answered.2 = some next ∧
      Asked next options outcomes (times + chats (requests.take (n + 1)))) ∧
    answered.1 = (respond server request
      (some (untouched options
        (share request outcomes (times + chats (requests.take n)))))).1 := by
  induction requests generalizing extractor times n with
  | nil => simp at sent
  | cons first rest ih =>
    obtain ⟨⟨next, left, asked'⟩, answer⟩ := respond_of_asked server first asked
    cases n with
    | zero =>
      obtain rfl : first = request := by simpa using sent
      obtain rfl : respond server first (some extractor) = answered := by
        simpa [serve] using received
      exact ⟨⟨next, left, by simpa using asked'⟩, by simpa [chats] using answer⟩
    | succ n =>
      have received' : (serve server (some next) rest)[n]? = some answered := by
        simpa [serve, left] using received
      have counted : ∀ m, times + chats ((first :: rest).take (m + 1)) =
          times + chats [first] + chats (rest.take m) := by
        intro m
        rw [List.take_succ_cons]
        simp only [chats, List.countP_cons, List.countP_nil]
        omega
      rw [counted, counted]
      exact ih asked' (by simpa using sent) received'

/-- Every request has an answer. -/
theorem length_serve (server : Server) (extractor : Option Extractor) (requests : List Request) :
    (serve server extractor requests).length = requests.length := by
  induction requests generalizing extractor with
  | nil => rfl
  | cons request rest ih => simp only [serve, List.length_cons, ih]

/-- A run without a model to ask never comes to have one. -/
theorem serve_none (server : Server) {requests : List Request}
    {answered : Response × Option Extractor} (received : answered ∈ serve server none requests) :
    answered.2 = none := by
  induction requests with
  | nil => simp [serve] at received
  | cons request rest ih =>
    simp only [serve, respond_none, List.mem_cons] at received
    rcases received with rfl | later
    · exact respond_none server request
    · exact ih later

/-- In a run the chats so far are the requests so far that ask the model. Each of these uses up the
next outcome and nothing else does, and every request is answered as it is alone with its share of
the outcomes. Without a model to ask there are no chats, and a wrong method, path, media type, body
or renderer leaves every extractor as it is. -/
theorem serve_accounts (server : Server) (options : Chat.Options) (outcomes : List Chat.Outcome)
    (requests : List Request) :
    (serve server (some (untouched options outcomes)) requests).length = requests.length ∧
    (∀ (n : Nat) (request : Request) (answered : Response × Option Extractor),
      requests[n]? = some request →
      (serve server (some (untouched options outcomes)) requests)[n]? = some answered →
      callsOf answered.2 = chats (requests.take (n + 1)) ∧
      (∃ next, answered.2 = some next ∧
        next.script.outcomes = outcomes.drop (chats (requests.take (n + 1)))) ∧
      answered.1 = (respond server request
        (some (untouched options
          (share request outcomes (chats (requests.take n)))))).1) ∧
    (∀ answered ∈ serve server none requests, callsOf answered.2 = 0) ∧
    (∀ (request : Request) (extractor : Option Extractor),
      request.method ≠ "POST" ∨ request.path ≠ "/generate" ∨ request.hasJson = false ∨
        (∀ order, request.order ≠ .ok order) ∨
        (∃ order, request.order = .ok order ∧ Renderer.ofName? order.renderer = none) →
      (respond server request extractor).2 = extractor) := by
  refine ⟨length_serve _ _ _, fun n request answered sent received => ?_,
    fun answered received => by rw [serve_none server received]; rfl,
    fun request extractor wrong => ?_⟩
  · obtain ⟨⟨next, left, asked⟩, answer⟩ :=
      serve_of_asked server (asked_untouched options outcomes) sent received
    rw [Nat.zero_add] at asked answer
    refine ⟨?_, ⟨next, left, asked.outcomes_eq⟩, answer⟩
    rw [left]
    exact asked.calls_eq
  · obtain ⟨response, same⟩ := silent_respond server (asksModel_of_wrong wrong)
    rw [same]

/-- An order whose prompt is not in the notation. -/
def openOrder : Request where
  method := "POST"
  target := "/generate?trace=1"
  headers := [("Content-Type", "application/json")]
  body := "\x7b\"prompt\": \"a cache\"\x7d".toUTF8.toList

/-- A question whether the service is alive. -/
def probe : Request where
  method := "GET"
  target := "/healthz"
  headers := []
  body := []

/-- A busy model that has recovered by the next chat. -/
def recovering : List Chat.Outcome :=
  [.error (.status 503 "busy"), .ok (Chat.scriptedCompletion "no graph")]

/-- Of two orders with a question between them the second takes the second outcome, and the question
takes none. -/
theorem serve_accounts_recovering :
    [openOrder, probe, openOrder][2]? = some openOrder ∧ probe.method ≠ "POST" ∧
    (∃ answered, (serve Server.standard (some (untouched {} recovering))
        [openOrder, probe, openOrder])[2]? = some answered ∧
      callsOf answered.2 = 2 ∧
      (∃ next, answered.2 = some next ∧ next.script.outcomes = []) ∧
      answered.1 = (respond Server.standard openOrder
        (some (untouched {} [.ok (Chat.scriptedCompletion "no graph")]))).1) ∧
    (respond Server.standard probe (some (untouched {} recovering))).2 =
      some (untouched {} recovering) := by
  have asks : openOrder.asksModel = true := by decide +kernel
  have asksNot : probe.asksModel = false := by decide +kernel
  have wrong : probe.method ≠ "POST" := by decide
  obtain ⟨length, each, -, untaken⟩ :=
    serve_accounts Server.standard {} recovering [openOrder, probe, openOrder]
  obtain ⟨answered, received⟩ : ∃ answered, (serve Server.standard
      (some (untouched {} recovering)) [openOrder, probe, openOrder])[2]? = some answered :=
    Option.isSome_iff_exists.mp (by simp [length])
  obtain ⟨calls, left, answer⟩ := each 2 openOrder answered rfl received
  refine ⟨rfl, wrong, ⟨answered, received, ?_, ?_, ?_⟩, untaken probe _ (.inl wrong)⟩
  · simpa [chats, asks, asksNot] using calls
  · simpa [chats, asks, asksNot, recovering] using left
  · simpa [chats, share, asks, asksNot, recovering] using answer

end PromptDiagram.Service
