import PromptDiagram.Chat.Types
import PromptDiagram.Json.Reader

/-!
# Replies of a provider

A provider wraps its answer in an envelope of choices and accounts. Only the first choice counts,
and only what a completion has of it; everything unknown is passed over. What is absent or null is
empty or zero, save the text itself, without which there is no completion.
-/

namespace PromptDiagram.Chat

open Json

/-- The message of a choice. -/
structure ReplyMessage where
  content : Option String

/-- A message of a choice that is being read. -/
structure ReplyMessage.Draft where
  content : Option (Option String) := none

/-- How messages of choices are read. -/
def ReplyMessage.shape : Shape ReplyMessage.Draft ReplyMessage where
  name := "ReplyMessage"
  fields := [
    fieldOf "content" false ReplyMessage.Draft.content (fun d x => { d with content := some x })
      (readOption readString)]
  blank := {}
  finish d := .ok { content := d.content.join }

/-- A choice. -/
structure Choice where
  message : Option ReplyMessage
  finishReason : Option String

/-- A choice that is being read. -/
structure Choice.Draft where
  message : Option (Option ReplyMessage) := none
  finishReason : Option (Option String) := none

/-- How choices are read. -/
def Choice.shape : Shape Choice.Draft Choice where
  name := "Choice"
  fields := [
    fieldOf "message" false Choice.Draft.message (fun d x => { d with message := some x })
      (readOption ReplyMessage.shape.reader),
    fieldOf "finish_reason" false Choice.Draft.finishReason
      (fun d x => { d with finishReason := some x }) (readOption readString)]
  blank := {}
  finish d := .ok { message := d.message.join, finishReason := d.finishReason.join }

/-- The accounts of a reply. -/
structure Usage where
  promptTokens : Nat
  completionTokens : Nat

/-- Accounts that are being read. -/
structure Usage.Draft where
  promptTokens : Option Nat := none
  completionTokens : Option Nat := none

/-- How accounts are read. -/
def Usage.shape : Shape Usage.Draft Usage where
  name := "Usage"
  fields := [
    fieldOf "prompt_tokens" true Usage.Draft.promptTokens
      (fun d x => { d with promptTokens := some x }) readNatural,
    fieldOf "completion_tokens" true Usage.Draft.completionTokens
      (fun d x => { d with completionTokens := some x }) readNatural]
  blank := {}
  finish d := .ok {
    promptTokens := d.promptTokens.getD 0
    completionTokens := d.completionTokens.getD 0 }

/-- The envelope of a reply. -/
structure Envelope where
  model : Option String
  choices : List Choice
  usage : Option Usage

/-- An envelope that is being read. -/
structure Envelope.Draft where
  model : Option (Option String) := none
  choices : Option (List Choice) := none
  usage : Option (Option Usage) := none

/-- How envelopes are read. -/
def Envelope.shape : Shape Envelope.Draft Envelope where
  name := "CompletionReply"
  fields := [
    fieldOf "model" false Envelope.Draft.model (fun d x => { d with model := some x })
      (readOption readString),
    fieldOf "choices" true Envelope.Draft.choices (fun d x => { d with choices := some x })
      (readList Choice.shape.reader),
    fieldOf "usage" false Envelope.Draft.usage (fun d x => { d with usage := some x })
      (readOption Usage.shape.reader)]
  blank := {}
  finish d := .ok {
    model := d.model.join
    choices := d.choices.getD []
    usage := d.usage.join }

/-- The completion in an envelope. -/
def Envelope.completion (envelope : Envelope) : Outcome :=
  match envelope.choices with
  | [] => .error (.undecodable "reply has no choices")
  | choice :: _ =>
    match choice.message.bind ReplyMessage.content with
    | none => .error (.undecodable "first choice has no message content")
    | some text => .ok {
        text
        model := envelope.model.getD ""
        finishReason := choice.finishReason.getD ""
        promptTokens := (envelope.usage.map Usage.promptTokens).getD 0
        completionTokens := (envelope.usage.map Usage.completionTokens).getD 0 }

/-- The completion in the body of a reply. -/
def decodeReply (body : List Char) : Outcome :=
  match decodeText Envelope.shape.reader body with
  | .ok envelope => envelope.completion
  | .error refusal => .error (.undecodable refusal.message)

end PromptDiagram.Chat
