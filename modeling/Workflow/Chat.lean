import Workflow.Json.Printer
import Workflow.Settings
import Workflow.Source.JsonText

/-!
# The service of the model

The model that answers prompts is a service that holds conversations. A prompt is sent to it as the
second message of a conversation, after one that says how to answer, and the reply lists choices,
the first of which is the answer.
-/

namespace Workflow

/-- The service that answers prompts. -/
structure ChatService where
  endpoint : Url
  key : String
  model : String
deriving DecidableEq, Repr

/-- What the service is asked. -/
structure ChatRequest where
  /-- The address that the request goes to. -/
  endpoint : Url
  /-- What entitles to ask. -/
  authorization : String
  body : Json

/-- What the service replies. -/
structure ChatReply where
  status : Nat
  body : String
deriving DecidableEq, Repr

/-- Why a reply is no answer. -/
inductive ChatError where
  /-- The service refuses, with this text. -/
  | refused (text : String)
  /-- A reply of success is not JSON. -/
  | malformed
  | noChoice
  | noText
deriving DecidableEq, Repr

/-- The message for a reply that is no answer. -/
def ChatError.message : ChatError → String
  | refused text => "OpenAI API error: " ++ text
  | malformed => "error decoding response body"
  | noChoice => "No choices in OpenAI response"
  | noText => "OpenAI response has no text content"

namespace ChatService

/-- The address for prompts below a base address. -/
def endpointOf (base : Url) : Except SettingsError Url :=
  let text := String.ofList (Text.dropEndWhile (· = '/') base.text.toList) ++ "/chat/completions"
  (Url.read text).mapError .noEndpoint

/-- The service that the settings name. -/
def ofSettings (settings : Settings) : Except SettingsError ChatService :=
  match settings.key with
  | none => .error .noKey
  | some key =>
      (endpointOf settings.baseUrl).map fun endpoint => { endpoint, key, model := settings.model }

/-- How the model is told to answer. -/
def instruction : String :=
  "You are a step in an automated workflow. Answer the request directly and concisely, "
    ++ "without preamble."

/-- A message of a conversation. -/
def messageJson (role content : String) : Json :=
  .object [("content", .text content), ("role", .text role)]

/-- The request that puts a prompt to the model. -/
def request (service : ChatService) (prompt : String) : ChatRequest where
  endpoint := service.endpoint
  authorization := "Bearer " ++ service.key
  body :=
    .object
      [("messages", .array [messageJson "system" instruction, messageJson "user" prompt]),
        ("model", .text service.model)]

/-- The content of a reply: those that say "no content" and "not modified" have none. -/
def content (reply : ChatReply) : String :=
  if reply.status = 204 || reply.status = 304 then "" else reply.body

/-- What stands under a name in an object. -/
def member? (name : String) : Json → Option Json
  | .object fields => fields.lookup name
  | _ => none

/-- The text of the first choice that a reply lists. -/
def firstChoice (reply : Json) : Except ChatError String :=
  match member? "choices" reply with
  | some (.array (choice :: _)) =>
      match ((member? "message" choice).bind (member? "content")).bind Json.text? with
      | some text => .ok (String.ofList (Text.trim text.toList))
      | none => .error .noText
  | _ => .error .noChoice

/-- The answer in a reply. -/
def answer (reply : ChatReply) : Except ChatError String :=
  if 200 ≤ reply.status && reply.status < 300 then
    match (Source.JsonText.read? (content reply)).bind fun reply => reply.value?.result? with
    | some value => firstChoice value
    | none => .error .malformed
  else .error (.refused (content reply))

end ChatService

end Workflow
