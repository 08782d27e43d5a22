import PromptDiagram.Chat.Reply
import PromptDiagram.Json.Printer
import PromptDiagram.Settings.Model

/-!
# The client of a provider

A chat is posted as JSON to the provider's address, with the key in the request's header, and the
answer's body is decoded if its status is a success. Texts are carried in JSON strings, so nothing
in a message can change what is asked.
-/

namespace PromptDiagram.Chat

open Json Numeric Settings Text

/-- A client of one provider. -/
structure Client where
  endpoint : String
  apiKey : String
  model : String
  deriving DecidableEq

/-- The client that settings describe. -/
def Client.ofSettings (settings : Settings.Model) : Client where
  endpoint := dropAtEnd '/' settings.baseUrl ++ "/chat/completions"
  apiKey := settings.apiKey
  model := settings.model

/-- A message as data. -/
def Message.value (message : Message) : Value :=
  .object [("role", .text message.role), ("content", .text message.content)]

/-- The messages that are sent: the instruction as a system message unless it is blank, then the
conversation. -/
def Request.sentMessages (request : Request) : List Message :=
  (if isBlankString request.system then [] else [⟨"system", request.system⟩]) ++ request.messages

/-- A temperature as data; null if it is not finite. -/
def temperatureValue (temperature : Floating) : Value :=
  if temperature.isFinite then .number (.single temperature) else .null

/-- The member that asks for a JSON object. -/
def responseFormat : String × Value :=
  ("response_format", .object [("type", .text "json_object")])

/-- The body that is posted for a request to a model. -/
def Request.body (request : Request) (model : String) : Value :=
  .object ([("model", .text model), ("temperature", temperatureValue request.options.temperature),
      ("max_tokens", .ofNat request.options.maxTokens)] ++
    (if request.options.jsonMode then [responseFormat] else []) ++
    [("messages", .array (request.sentMessages.map Message.value))])

/-- A request as the provider sees it. -/
structure Posted where
  endpoint : String
  authorization : String
  contentType : String
  body : String
  deriving DecidableEq

/-- The header of a key, without the blanks that are lost at its end. -/
def authorization (apiKey : String) : String :=
  let header := "Bearer ".toList ++ apiKey.toList
  String.ofList (header.reverse.dropWhile fun c => c == ' ' || c == '\t').reverse

/-- What is posted for a request, if the key can be sent at all. -/
def Client.post? (client : Client) (request : Request) : Option Posted :=
  if isHeaderValue client.apiKey then
    some {
      endpoint := client.endpoint
      authorization := authorization client.apiKey
      contentType := "application/json"
      body := (request.body client.model).print }
  else none

/-- What a provider answers with: nothing, or a status and a body. -/
inductive Answer where
  | unreachable (why : String)
  | received (status : Nat) (body : List UInt8)

/-- Whether a status is a success. -/
def isSuccess (status : Nat) : Bool :=
  200 ≤ status && status ≤ 299

/-- What comes of an answer. -/
def Answer.outcome : Answer → Outcome
  | .unreachable why => .error (.transport why)
  | .received status body =>
    let body := decodeLossy body
    if isSuccess status then decodeReply body else .error (.status status (String.ofList body))

/-- What comes of a request that a provider answers. -/
def Client.chat (client : Client) (request : Request) (answer : Answer) : Outcome :=
  match client.post? request with
  | some _ => answer.outcome
  | none => .error (.transport "builder error")

end PromptDiagram.Chat
