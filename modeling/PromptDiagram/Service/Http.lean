import PromptDiagram.Service.Generate
import PromptDiagram.Service.MediaType
import PromptDiagram.Settings.Server

/-!
# The service over HTTP

Two routes: orders are posted to one, the other tells that the service is alive. Every answer says
which origins may read it, by the list of origins that the server was set up with, and every
preflight request is answered the same way, whatever it asks about.

A request costs a chat only if it is an order that can be carried out: method, path, media type,
body and renderer are looked at before.

What the libraries beneath the service do is written out as they document it. The framework, axum,
finds the route of a path (`Request.path`), refuses unknown paths and wrong methods
(`respondToPlain`, `Route.allow`), limits and decodes bodies (`greatestBody`, `Request.order`) and
words its refusals (`refusalResponse`). The layer for origins, from tower-http, answers preflight
requests (`preflightResponse`, `preflightHeaders`) and opens answers to origins (`openTo?`,
`originHeaders`). Which texts may be values of headers (`isHeaderValue`) and which values are read
as texts (`isPlainValue`) is up to the library of headers, and the form of media types
(`MediaType.parse?`) to the mime library. The service's own are its two routes, its list of origins
and what it answers to orders.
-/

namespace PromptDiagram.Service

open Json Settings Text

/-- A request. -/
structure Request where
  method : String
  target : String
  headers : List (String × String)
  body : List UInt8

/-- A response, with its headers by name. -/
structure Response where
  status : Nat
  headers : List (String × String)
  body : String
  deriving DecidableEq

/-- The first header of a name, whose letter case does not matter. -/
def Request.header? (request : Request) (name : String) : Option String :=
  (request.headers.find? fun header =>
    sameIgnoringCase header.1.toList name.toList).map Prod.snd

/-- A character of the name of a scheme. -/
def isSchemeChar (c : Char) : Bool :=
  isLetter c || isDigit c || c == '+' || c == '-' || c == '.'

/-- A character that ends the host of an address. -/
def endsHost (c : Char) : Bool :=
  c == '/' || c == '?' || c == '#'

/-- What follows the scheme and the host of an address; a target without them is left as it is. -/
def withoutHost (target : List Char) : List Char :=
  match target.dropWhile isSchemeChar with
  | ':' :: '/' :: '/' :: rest => rest.dropWhile fun c => !endsHost c
  | _ => target

/-- The path of a request, without its query. A target may name the host before the path. -/
def Request.path (request : Request) : String :=
  String.ofList ((withoutHost request.target.toList).takeWhile fun c => c != '?' && c != '#')

/-! ## Origins -/

/-- The origins that the service compares with: those listed that may be the value of a header. -/
def comparedOrigins (server : Server) : List String :=
  server.origins.filter isHeaderValue

/-- The origin that an answer is open to, if it is open to one. -/
def openTo? (server : Server) (request : Request) : Option String :=
  if server.allowsAnyOrigin then some anyOrigin
  else (request.header? "origin").filter fun origin => (comparedOrigins server).contains origin

/-- The headers of every answer. -/
def originHeaders (server : Server) (request : Request) : List (String × String) :=
  [("vary", "origin, access-control-request-method, access-control-request-headers")] ++
    ((openTo? server request).map fun origin => ("access-control-allow-origin", origin)).toList

/-- The headers of the answer to a preflight request: any method and any header may be used. -/
def preflightHeaders : List (String × String) :=
  [("access-control-allow-methods", "*"), ("access-control-allow-headers", "*")]

/-! ## Routes -/

/-- A path that the service knows. -/
inductive Route where
  | generate
  | health
  deriving DecidableEq

/-- The route of a path. -/
def Route.ofPath? (path : String) : Option Route :=
  if path == "/generate" then some .generate
  else if path == "/healthz" then some .health
  else none

/-- The methods that a route takes. -/
def Route.methods : Route → List String
  | .generate => ["POST"]
  | .health => ["GET", "HEAD"]

/-- The header that lists the methods of a route. -/
def Route.allow (route : Route) : String × String :=
  ("allow", ",".intercalate route.methods)

/-- An answer without a body. -/
def bare (status : Nat) (headers : List (String × String)) : Response :=
  ⟨status, headers, ""⟩

/-- An answer in plain text. -/
def plain (status : Nat) (body : String) : Response :=
  ⟨status, [("content-type", "text/plain; charset=utf-8")], body⟩

/-- An answer in JSON. -/
def json (status : Nat) (body : Value) : Response :=
  ⟨status, [("content-type", "application/json")], body.print⟩

/-! ## Orders -/

/-- The greatest number of bytes that a body may have. -/
def greatestBody : Nat := 2 * 1024 * 1024

/-- Whether the body of a request is said to be JSON, in a header that is read as a text. -/
def Request.hasJson (request : Request) : Bool :=
  ((request.header? "content-type").filter isPlainValue).any fun value =>
    (MediaType.parse? value.toList).any MediaType.isJson

/-- The answer to a body that is no order. A body that is not JSON is a bad request, and one that is
JSON of another form cannot be processed. -/
def refusalResponse (refusal : Refusal) : Response :=
  if refusal.reason.isAboutData then
    plain 422 ("Failed to deserialize the JSON body into the target type: " ++
      refusal.messageWithPath)
  else plain 400 ("Failed to parse the request body as JSON: " ++ refusal.messageWithPath)

/-- The order in the body of a request, or the answer to a request that brings none. -/
def Request.order (request : Request) : Except Response Order :=
  if !request.hasJson then
    .error (plain 415 "Expected request with `Content-Type: application/json`")
  else if greatestBody < request.body.length then
    .error (plain 413 "Failed to buffer the request body: length limit exceeded")
  else match decodeBytes Order.shape.reader request.body with
    | .ok order => .ok order
    | .error refusal => .error (refusalResponse refusal)

/-- The answer to what came of an order. -/
def orderResponse : Except Failure Delivery → Response
  | .ok delivery => json 200 delivery.value
  | .error failure => json failure.status failure.body

/-- Answer a request that is posted to the route of orders, and the extractor afterwards. -/
def respondToOrder (request : Request) (extractor : Option Extractor) :
    Response × Option Extractor :=
  match request.order with
  | .error response => (response, extractor)
  | .ok order =>
    let (result, extractor) := generate order extractor
    (orderResponse result, extractor)

/-! ## Requests -/

/-- Whether a request asks beforehand what it may do. -/
def Request.isPreflight (request : Request) : Bool :=
  request.method == "OPTIONS"

/-- Answer a request that is no preflight, and the extractor afterwards. -/
def respondToPlain (request : Request) (extractor : Option Extractor) :
    Response × Option Extractor :=
  match Route.ofPath? request.path with
  | none => (bare 404 [], extractor)
  | some route =>
    if route.methods.contains request.method then
      match route with
      | .generate => respondToOrder request extractor
      | .health => (bare 200 [], extractor)
    else (bare 405 [route.allow], extractor)

/-- The answer to a preflight request. -/
def preflightResponse (request : Request) : Response :=
  bare 200 (preflightHeaders ++ ((Route.ofPath? request.path).map Route.allow).toList)

/-- Answer a request, and the extractor afterwards. -/
def respond (server : Server) (request : Request) (extractor : Option Extractor) :
    Response × Option Extractor :=
  let (response, extractor) :=
    if request.isPreflight then (preflightResponse request, extractor)
    else respondToPlain request extractor
  ({ response with headers := originHeaders server request ++ response.headers }, extractor)

/-- Answer requests in order, each with the extractor afterwards. -/
def serve (server : Server) (extractor : Option Extractor) :
    List Request → List (Response × Option Extractor)
  | [] => []
  | request :: rest =>
    let answered := respond server request extractor
    answered :: serve server answered.2 rest

end PromptDiagram.Service
