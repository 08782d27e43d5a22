import PromptDiagram.Proofs.Service.Asking
import PromptDiagram.Proofs.Settings.Model

/-!
# Origins

Which origins may read an answer depends on nothing but the list that the server was set up with and
the origin that the request names: no path, method or outcome opens an answer or closes it. The list
is split at commas and each segment is trimmed. An asterisk among the segments opens every answer to
anyone, and else an answer is open to the origin of the request if that is one of the segments and
may be the value of a header. No answer allows credentials.
-/

namespace PromptDiagram

open Text

namespace Settings

/-! ## Lists of origins -/

/-- Whether a text lists an origin: one of its segments between commas is the origin, with any
blanks around it. -/
def Lists (text origin : String) : Prop :=
  ∃ segment ∈ text.toList.splitOn ',', trim segment = origin.toList

instance (text origin : String) : Decidable (Lists text origin) :=
  inferInstanceAs (Decidable (∃ segment ∈ text.toList.splitOn ',', trim segment = origin.toList))

/-- The segments of a text are those that it splits into. -/
theorem segments_eq_splitOn (separator : Char) (text : List Char) :
    segments separator text = text.splitOn separator := by
  rw [List.splitOn_eq_splitOnP]
  induction text with
  | nil => rfl
  | cons c rest ih =>
    rw [segments, ih, List.splitOnP_cons_eq_if_modifyHead]
    split
    · rfl
    · cases parts : rest.splitOnP (· == separator) with
      | nil => exact absurd parts (List.splitOnP_ne_nil _ _)
      | cons first others => rfl

/-- The origins of a text are those that it lists, except the empty one. -/
theorem mem_originsIn_iff {text origin : String} :
    origin ∈ originsIn text ↔ origin ≠ "" ∧ Lists text origin := by
  rw [originsIn, segments_eq_splitOn, List.mem_filterMap]
  constructor
  · rintro ⟨part, mem, kept⟩
    obtain ⟨segment, inside, rfl⟩ := List.mem_map.mp mem
    split at kept
    · cases kept
    · rename_i nonempty
      obtain rfl := Option.some.inj kept
      refine ⟨?_, segment, inside, String.toList_ofList.symm⟩
      intro empty
      have chars := congrArg String.toList empty
      rw [String.toList_ofList] at chars
      simp [chars] at nonempty
  · rintro ⟨nonempty, segment, inside, trimmed⟩
    refine ⟨trim segment, List.mem_map_of_mem inside, ?_⟩
    rw [trimmed, if_neg (by simpa using nonempty), String.ofList_toList]

/-- A server that loads has the origins of the list that is set. -/
theorem Server.origins_of_loaded {settings : Variables} {server : Server}
    (loaded : ofVariables settings = .ok server) :
    server.origins = originsIn ((settings "CORS_ORIGINS").getD "*") := by
  unfold ofVariables at loaded
  cases port : portOf settings with
  | error failure =>
    rw [port] at loaded
    cases loaded
  | ok number =>
    rw [port] at loaded
    cases loaded
    rfl

/-- Any origin may read answers exactly if an asterisk is listed. -/
theorem Server.allowsAnyOrigin_iff {settings : Variables} {server : Server}
    (loaded : ofVariables settings = .ok server) :
    server.allowsAnyOrigin = true ↔ Lists ((settings "CORS_ORIGINS").getD "*") "*" := by
  rw [allowsAnyOrigin, List.contains_iff_mem, origins_of_loaded loaded, mem_originsIn_iff,
    anyOrigin]
  exact and_iff_right (by decide)

end Settings

namespace Service

open Settings

/-- Whether each character of a text may stand in a header: it is a tab, or neither below the blank
nor the one that deletes. -/
def IsLegal (text : String) : Prop :=
  ∀ c ∈ text.toList, c = '\t' ∨ (0x20 ≤ c.toNat ∧ c.toNat ≠ 0x7F)

/-- The values of headers are the texts with legal characters only. -/
theorem isHeaderValue_iff {text : String} : isHeaderValue text = true ↔ IsLegal text := by
  simp [isHeaderValue, isHeaderChar, IsLegal]

instance (text : String) : Decidable (IsLegal text) :=
  decidable_of_iff _ isHeaderValue_iff

/-- The origins that requests are compared with are those listed that may be the value of a header,
except the empty one. -/
theorem mem_comparedOrigins_iff {settings : Variables} {server : Server} {origin : String}
    (loaded : Server.ofVariables settings = .ok server) :
    origin ∈ comparedOrigins server ↔ origin ≠ "" ∧
      Lists ((settings "CORS_ORIGINS").getD "*") origin ∧ IsLegal origin := by
  rw [comparedOrigins, List.mem_filter, Server.origins_of_loaded loaded, mem_originsIn_iff,
    isHeaderValue_iff, and_assoc]

/-! ## Headers of answers -/

/-- The values of the headers of a name, whose letter case does not matter. -/
def Response.values (response : Response) (name : String) : List String :=
  (response.headers.filter fun header =>
    sameIgnoringCase header.1.toList name.toList).map Prod.snd

/-- The names of the headers that answers have from their routes and from preflight requests. -/
def ownNames : List String :=
  ["content-type", "allow", "access-control-allow-methods", "access-control-allow-headers"]

/-- Whether a response has headers of its own names only. -/
def Response.IsOwn (response : Response) : Prop :=
  ∀ header ∈ response.headers, header.1 ∈ ownNames

/-- An answer in plain text has the header of its type only. -/
theorem isOwn_plain (status : Nat) (body : String) : (plain status body).IsOwn := by
  simp [Response.IsOwn, plain, ownNames]

/-- An answer in JSON has the header of its type only. -/
theorem isOwn_json (status : Nat) (body : Json.Value) : (json status body).IsOwn := by
  simp [Response.IsOwn, json, ownNames]

/-- The answer to a request that brings no order is in plain text. -/
theorem isOwn_of_order_eq_error {request : Request} {response : Response}
    (refused : request.order = .error response) : response.IsOwn := by
  obtain ⟨status, -, body, rfl⟩ := exists_plain_of_order_eq_error refused
  exact isOwn_plain status body

/-- The answer to what came of an order is in JSON. -/
theorem isOwn_orderResponse (result : Except Failure Delivery) : (orderResponse result).IsOwn := by
  cases result <;> exact isOwn_json _ _

/-- The answer to a request that is no preflight has headers of its own names only. -/
theorem isOwn_respondToPlain (request : Request) (extractor : Option Extractor) :
    (respondToPlain request extractor).1.IsOwn := by
  unfold respondToPlain
  split
  · simp [Response.IsOwn, bare]
  · split
    · split
      · unfold respondToOrder
        split
        case h_1 response refused => exact isOwn_of_order_eq_error refused
        case h_2 order brought => exact isOwn_orderResponse _
      · simp [Response.IsOwn, bare]
    · simp [Response.IsOwn, bare, Route.allow, ownNames]

/-- The answer to a preflight request has headers of its own names only. -/
theorem isOwn_preflightResponse (request : Request) : (preflightResponse request).IsOwn := by
  cases route : Route.ofPath? request.path <;>
    simp [Response.IsOwn, preflightResponse, bare, preflightHeaders, route, Route.allow, ownNames]

/-- Every answer is one with headers of its own names only, which then says which origins may read
it. -/
theorem exists_opened (server : Server) (request : Request) (extractor : Option Extractor) :
    ∃ response : Response, response.IsOwn ∧
      (respond server request extractor).1 = response.opened server request := by
  cases preflight : request.isPreflight with
  | true =>
    refine ⟨preflightResponse request, isOwn_preflightResponse request, ?_⟩
    simp only [respond, preflight, if_true, Response.opened]
  | false =>
    refine ⟨_, isOwn_respondToPlain request extractor, ?_⟩
    rw [respond_of_plain server preflight]

/-- An answer with headers of its own names only has no other header before it says which origins
may read it. -/
theorem Response.IsOwn.values_opened {response : Response} (own : response.IsOwn) {name : String}
    (other : ∀ known ∈ ownNames, sameIgnoringCase known.toList name.toList = false)
    (server : Server) (request : Request) :
    (response.opened server request).values name =
      (bare 200 (originHeaders server request)).values name := by
  have absent : (response.headers.filter fun header =>
      sameIgnoringCase header.1.toList name.toList) = [] := by
    rw [List.filter_eq_nil_iff]
    intro header mem
    simp [other header.1 (own header mem)]
  simp only [Response.values, Response.opened, bare, List.filter_append, absent, List.append_nil]

/-- The headers that say which origins may read an answer name the origin that it is open to, and
have no value under any other name that is not theirs. -/
theorem values_originHeaders (server : Server) (request : Request) {name : String}
    (varies : sameIgnoringCase "vary".toList name.toList = false) :
    (bare 200 (originHeaders server request)).values name =
      (openTo? server request).toList.filter fun _ =>
        sameIgnoringCase "access-control-allow-origin".toList name.toList := by
  simp only [Response.values, bare, originHeaders, List.singleton_append, List.filter_cons, varies,
    Bool.false_eq_true, if_false]
  cases openTo? server request with
  | none => rfl
  | some origin =>
    simp only [Option.map_some, Option.toList_some, List.filter_cons, List.filter_nil]
    split <;> rfl

/-- An answer names the origin that it is open to, if there is one, and no other. -/
theorem values_allowOrigin (server : Server) (request : Request) (extractor : Option Extractor) :
    (respond server request extractor).1.values "access-control-allow-origin" =
      (openTo? server request).toList := by
  obtain ⟨response, own, answer⟩ := exists_opened server request extractor
  rw [answer, own.values_opened (by decide), values_originHeaders server request (by decide)]
  exact List.filter_eq_self.mpr fun _ _ => by decide

/-- No answer allows credentials. -/
theorem values_allowCredentials (server : Server) (request : Request)
    (extractor : Option Extractor) :
    (respond server request extractor).1.values "access-control-allow-credentials" = [] := by
  obtain ⟨response, own, answer⟩ := exists_opened server request extractor
  rw [answer, own.values_opened (by decide), values_originHeaders server request (by decide)]
  exact List.filter_eq_nil_iff.mpr fun _ _ => by decide

/-- Whether a request names an origin: it is the value of its first header of that name, whose
letter case does not matter. -/
def Request.Names (request : Request) (origin : String) : Prop :=
  ∃ before name behind, request.headers = before ++ (name, origin) :: behind ∧
    sameIgnoringCase name.toList "origin".toList = true ∧
    ∀ header ∈ before, sameIgnoringCase header.1.toList "origin".toList = false

/-- The header that is looked up tells the origin that a request names. -/
theorem Request.names_iff {request : Request} {origin : String} :
    request.Names origin ↔ request.header? "origin" = some origin := by
  rw [header?, Option.map_eq_some_iff]
  simp only [List.find?_eq_some_iff_append, Bool.not_eq_true', Names]
  constructor
  · rintro ⟨before, name, behind, parts, same, others⟩
    exact ⟨(name, origin), ⟨same, before, behind, parts, others⟩, rfl⟩
  · rintro ⟨⟨name, value⟩, ⟨same, before, behind, parts, others⟩, rfl⟩
    exact ⟨before, name, behind, parts, same, others⟩

instance (request : Request) (origin : String) : Decidable (request.Names origin) :=
  decidable_of_iff' _ Request.names_iff

/-- Whether a request names an origin that is on a list and may be the value of a header. -/
structure Request.IsFrom (request : Request) (list origin : String) : Prop where
  named : request.Names origin
  nonempty : origin ≠ ""
  listed : Lists list origin
  legal : IsLegal origin

/-- The origin that a request is from is a matter of four checks. -/
theorem Request.isFrom_iff {request : Request} {list origin : String} :
    request.IsFrom list origin ↔ request.Names origin ∧ origin ≠ "" ∧ Lists list origin ∧
      IsLegal origin := by
  constructor
  · intro allowed
    exact ⟨allowed.named, allowed.nonempty, allowed.listed, allowed.legal⟩
  · rintro ⟨named, nonempty, listed, legal⟩
    exact ⟨named, nonempty, listed, legal⟩

instance (request : Request) (list origin : String) : Decidable (request.IsFrom list origin) :=
  decidable_of_iff' _ Request.isFrom_iff

/-- A request is from no other origin than the one that it names. -/
theorem Request.not_isFrom {request : Request} {list origin : String}
    (named : request.Names origin) (foreign : ¬request.IsFrom list origin)
    (other : String) : ¬request.IsFrom list other := by
  intro allowed
  have first := Request.names_iff.mp named
  obtain rfl : origin = other :=
    Option.some.inj (first.symm.trans (Request.names_iff.mp allowed.named))
  exact foreign allowed

/-- An answer of a server that does not open it to anyone is open to the listed origin of the
request. -/
theorem openTo?_eq_some_iff {settings : Variables} {server : Server}
    (loaded : Server.ofVariables settings = .ok server) (closed : server.allowsAnyOrigin = false)
    {request : Request} {origin : String} : openTo? server request = some origin ↔
      request.IsFrom ((settings "CORS_ORIGINS").getD "*") origin := by
  rw [openTo?, closed, if_neg Bool.false_ne_true, Option.filter_eq_some_iff,
    List.contains_iff_mem, mem_comparedOrigins_iff loaded, Request.isFrom_iff,
    Request.names_iff]

/-- Every answer of a server, whatever is asked and whatever becomes of it, may be read by anyone if
an asterisk is on the list of origins. Else it may be read by the origin of the request alone, and
exactly if this origin is on the list and may be the value of a header; an asterisk is not among the
origins that requests are compared with. No answer allows credentials. -/
theorem respond_opens {settings : Variables} {server : Server}
    (loaded : Server.ofVariables settings = .ok server) (request : Request)
    (extractor : Option Extractor) :
    let list := (settings "CORS_ORIGINS").getD "*"
    let response := (respond server request extractor).1
    (Lists list "*" → response.values "access-control-allow-origin" = ["*"]) ∧
    (¬Lists list "*" →
      (∀ origin, response.values "access-control-allow-origin" = [origin] ↔
        request.IsFrom list origin) ∧
      ((∀ origin, ¬request.IsFrom list origin) →
        response.values "access-control-allow-origin" = []) ∧
      "*" ∉ comparedOrigins server) ∧
    response.values "access-control-allow-credentials" = [] := by
  intro list response
  have any := Server.allowsAnyOrigin_iff loaded
  have values : response.values "access-control-allow-origin" = (openTo? server request).toList :=
    values_allowOrigin server request extractor
  refine ⟨fun listed => ?anyone, fun unlisted => ?readers,
    values_allowCredentials server request extractor⟩
  case anyone =>
    rw [values, openTo?, if_pos (any.mpr listed)]
    rfl
  case readers =>
    have closed : server.allowsAnyOrigin = false :=
      Bool.eq_false_iff.mpr fun anyone => unlisted (any.mp anyone)
    have readable (origin : String) := @openTo?_eq_some_iff _ _ loaded closed request origin
    rw [values]
    refine ⟨fun origin => ?_, fun foreign => ?_, fun mem => ?_⟩
    · rw [← readable origin]
      cases openTo? server request <;> simp
    · cases opened : openTo? server request with
      | none => rfl
      | some origin => exact absurd ((readable origin).mp opened) (foreign origin)
    · exact unlisted ((mem_comparedOrigins_iff loaded).mp mem).2.1

/-- Origins with blanks around them, one of them beyond ASCII, nothing between two commas, and one
that is no value of a header. -/
def paddedOrigins : String := " http://a , http://\u00e9,,http://b\x7f\t"

/-- A request from an origin to a path that nothing is at. -/
def strayRequest (origin : String) : Request := ⟨"DELETE", "/nowhere", [("Origin", origin)], []⟩

/-- The padded origins open the answer to a stray request to an origin between the blanks, within
ASCII and beyond, and to none that is no value of a header or differs in letter case. An asterisk
opens it to anyone. -/
theorem respond_opens_padded :
    (∃ server, Server.ofVariables (listed [("CORS_ORIGINS", paddedOrigins)]) = .ok server ∧
      (respond server (strayRequest "http://a") none).1.values "access-control-allow-origin" =
        ["http://a"] ∧
      (respond server (strayRequest "http://\u00e9") none).1.values "access-control-allow-origin" =
        ["http://\u00e9"] ∧
      (respond server (strayRequest "http://b\x7f") none).1.values "access-control-allow-origin" =
        [] ∧
      (respond server (strayRequest "http://A") none).1.values "access-control-allow-origin" = []) ∧
    ∃ server, Server.ofVariables (listed [("CORS_ORIGINS", "http://a, *")]) = .ok server ∧
      (respond server (strayRequest "http://b") none).1.values "access-control-allow-origin" =
        ["*"] := by
  have loaded (list : String) : Server.ofVariables (listed [("CORS_ORIGINS", list)]) =
      .ok ⟨standardPort, originsIn list⟩ := rfl
  have names (origin : String) : (strayRequest origin).Names origin :=
    ⟨[], "Origin", [], rfl, by decide, by simp⟩
  have closed (origin : String) :=
    (respond_opens (loaded paddedOrigins) (strayRequest origin) none).2.1 (by decide +kernel)
  refine ⟨⟨_, loaded paddedOrigins, ?_, ?_, ?_, ?_⟩, _, loaded "http://a, *", ?_⟩
  · exact ((closed "http://a").1 "http://a").mpr (by decide +kernel)
  · exact ((closed "http://\u00e9").1 "http://\u00e9").mpr (by decide +kernel)
  · exact (closed "http://b\x7f").2.1 (Request.not_isFrom (names _) (by decide +kernel))
  · exact (closed "http://A").2.1 (Request.not_isFrom (names _) (by decide +kernel))
  · exact (respond_opens (loaded "http://a, *") (strayRequest "http://b") none).1
      (by decide +kernel)

end Service
end PromptDiagram
