import Automation.Number.Shortest
import Automation.Rendering
import Automation.Workflow.Definition

/-!
# Calls of collaborators

An action does its work by one call of a collaborator: an email sender, a notification store, a
customer store or an HTTP client.  `Action.prepare` fills the placeholders of an action's
configuration, checks it and makes the call.  A configuration that fails a check makes no call
(`PrepareError`).

A collaborator answers with a `Reply`, or its time runs out.  `Call.settle` says what the reply
means for the action: it is accepted with an output, or there is an error.
-/

namespace Automation

/-- A call of a collaborator. -/
inductive Call where
  /-- An email to be sent. -/
  | email (recipient : String) (subject : Option String) (template : String) (values : Mapping)
  /-- A notification to be stored. -/
  | notification (title message type priority : String) (userId : Option String)
  /-- Fields of a customer to be changed. -/
  | customer (id : String) (fields : Mapping)
  /-- An HTTP request to be made within some seconds. -/
  | http (url method : String) (headers : List (String × String)) (body : Value)
      (timeout : Number)
deriving Repr

/-- The kinds of collaborators. -/
inductive Channel where
  /-- The email sender. -/
  | email
  /-- The notification store. -/
  | notification
  /-- The customer store. -/
  | customer
  /-- The HTTP client. -/
  | http
deriving DecidableEq, Repr

/-- The collaborator that a call goes to. -/
def Call.channel : Call → Channel
  | .email .. => .email
  | .notification .. => .notification
  | .customer .. => .customer
  | .http .. => .http

/-- The collaborator of a kind of action. -/
def ActionType.channel : ActionType → Channel
  | .sendEmail => .email
  | .createNotification => .notification
  | .updateCustomer => .customer
  | .webhook => .http

/-! ## From the configuration to the call -/

/-- Why a configuration makes no call. -/
inductive PrepareError where
  /-- A placeholder cannot be filled. -/
  | placeholder (e : RenderError)
  /-- A value that should be shown has no text. -/
  | noText (e : FormatError)
  /-- A configuration that is no mapping. -/
  | badConfig (sort : String)
  /-- A text that is needed is missing or blank. -/
  | missingText (type : ActionType) (key : String)
  /-- An email without template and body. -/
  | noTemplate
  /-- A subject that is no text. -/
  | badSubject
  /-- Something that should be a mapping. -/
  | notObject (type : ActionType) (key : String)
  /-- An event that is no mapping. -/
  | badContext (sort : String)
  /-- A change of a customer that changes nothing. -/
  | noUpdates
  /-- A URL that is not one of the web. -/
  | badUrl (url : String)
  /-- A method that webhooks do not use. -/
  | badMethod (method : String)
deriving Repr

/-- What is wrong. -/
def PrepareError.message : PrepareError → String
  | .placeholder e => e.message
  | .noText e => e.message
  | .badConfig sort => "'" ++ sort ++ "' object has no attribute 'get'"
  | .missingText type key => type.name ++ " requires config." ++ key
  | .noTemplate => "send_email requires config.templateId or config.body"
  | .badSubject => "config.subject must be a string"
  | .notObject _ key => "config." ++ key ++ " must be an object"
  | .badContext sort => "'" ++ sort ++ "' object is not a mapping"
  | .noUpdates => "update_customer requires a non-empty config.updates"
  | .badUrl url => "invalid webhook url: " ++ url
  | .badMethod method => "unsupported webhook method: " ++ method

/-- What is wrong with a configuration that is no mapping. -/
def PrepareError.ofOther (context config : Value) : PrepareError :=
  match renderValue context config with
  | .ok v => .badConfig v.sortName
  | .error e => .placeholder e

/-- A text that must be there and not blank, without the blanks around it. -/
def requiredText (type : ActionType) (config : Mapping) (key : String) :
    Except PrepareError String :=
  match config.getD key with
  | .text s => if Text.blank s then .error (.missingText type key) else .ok (Text.trim s)
  | _ => .error (.missingText type key)

/-- A mapping that may be left out. -/
def optionalMapping (type : ActionType) (config : Mapping) (key : String) :
    Except PrepareError Mapping :=
  match config.getD key with
  | .null => .ok []
  | .mapping m => .ok m
  | _ => .error (.notObject type key)

/-- The display text of a value. -/
def shownText (v : Value) : Except PrepareError String := v.shown.mapError PrepareError.noText

/-- The display text of an entry that counts as present, or else a text. -/
def shownOr (config : Mapping) (key other : String) : Except PrepareError String :=
  shownText ((config.getD key).orElse (.text other))

/-- The display text of an entry, if that counts as present. -/
def shownIfTruthy (v : Value) : Except PrepareError (Option String) :=
  if v.truthy then return some (← shownText v) else return none

/-- The call of an action that sends an email. -/
def prepareEmail (config : Mapping) (context : Value) : Except PrepareError Call := do
  let recipient ← requiredText .sendEmail config "to"
  let template ←
    match (config.getD "templateId").orElse (config.getD "body") with
    | .text s => if Text.blank s then throw .noTemplate else pure s
    | _ => throw .noTemplate
  let subject ←
    match config.getD "subject" with
    | .null => pure none
    | .text s => pure (if s.isEmpty then none else some s)
    | _ => throw .badSubject
  let facts ←
    match context with
    | .mapping m => pure m
    | v => throw (.badContext v.sortName)
  let values ← optionalMapping .sendEmail config "variables"
  return .email recipient subject template (Mapping.override facts values)

/-- The call of an action that creates a notification. -/
def prepareNotification (config : Mapping) : Except PrepareError Call := do
  let title ← shownOr config "title" "Workflow Notification"
  let message ← shownOr config "message" "Workflow action executed"
  let type ← shownOr config "type" "system_alert"
  let priority ← shownOr config "priority" "medium"
  let userId ← shownIfTruthy (config.getD "userId")
  return .notification title message type priority userId

/-- The call of an action that changes a customer. -/
def prepareCustomer (config : Mapping) : Except PrepareError Call := do
  let id ← requiredText .updateCustomer config "customerId"
  let fields ← optionalMapping .updateCustomer config "updates"
  if fields.isEmpty then throw .noUpdates
  return .customer id fields

/-- The methods of webhooks. -/
def webhookMethods : List String := ["GET", "POST", "PUT", "PATCH", "DELETE"]

/-- Whether a URL is one of the web. -/
def isWebUrl (url : String) : Bool := url.startsWith "http://" || url.startsWith "https://"

/-- A header put among those before it: in the place of the one of its name, or at the end. -/
def putHeader (name value : String) : List (String × String) → List (String × String)
  | [] => [(name, value)]
  | (n, v) :: rest => if n = name then (n, value) :: rest else (n, v) :: putHeader name value rest

/-- The headers that entries make, after those `taken`: names and values are shown. -/
def collectHeaders (taken : List (String × String)) :
    List (Key × Value) → Except PrepareError (List (String × String))
  | [] => .ok taken
  | (k, v) :: rest => do
    let name ← shownText k.value
    let value ← shownText v
    collectHeaders (putHeader name value taken) rest

/-- The call of an action that calls a webhook. -/
def prepareWebhook (config : Mapping) (timeout : Number) : Except PrepareError Call := do
  let url ← requiredText .webhook config "url"
  if !isWebUrl url then throw (.badUrl url)
  let method := Text.upper (← shownOr config "method" "POST")
  if !webhookMethods.contains method then throw (.badMethod method)
  let headers ← collectHeaders [] (← optionalMapping .webhook config "headers")
  return .http url method headers (config.getD "payload") timeout

/-- The call that a filled configuration makes. -/
def ActionType.call (t : ActionType) (config : Mapping) (context : Value)
    (webhookTimeout : Number) : Except PrepareError Call :=
  match t with
  | .sendEmail => prepareEmail config context
  | .createNotification => prepareNotification config
  | .updateCustomer => prepareCustomer config
  | .webhook => prepareWebhook config webhookTimeout

/-- The call of an action of a known kind in an event. -/
def Action.prepare (a : Action) (t : ActionType) (context : Value) (webhookTimeout : Number) :
    Except PrepareError Call := do
  let config ← (renderEntries context a.config).mapError PrepareError.placeholder
  t.call config context webhookTimeout

/-! ## From the reply to the result -/

/-- What comes back from a collaborator. -/
inductive Reply where
  /-- A value. -/
  | value (v : Value)
  /-- An HTTP response. -/
  | response (status : Int)
  /-- A failure. -/
  | raised (f : Failure)
  /-- Nothing in time. -/
  | expired
deriving Repr

/-- A status that says the request was accepted. -/
def isAccepted (status : Int) : Bool := 200 ≤ status && status < 300

/-- What became of an action: an error, null for none, and an output. -/
structure Outcome where
  /-- The error. -/
  error : Value
  /-- The output. -/
  output : Mapping
deriving Repr

namespace Outcome

/-- Accepted, with an output. -/
def accepted (output : Mapping) : Outcome := ⟨.null, output⟩

/-- Refused, with a message. -/
def refused (message : String) : Outcome := ⟨.text message, []⟩

/-- Without an error. -/
def isSuccess (o : Outcome) : Bool :=
  match o.error with
  | .null => true
  | _ => false

end Outcome

/-- The message of an action whose time ran out. -/
def expiredMessage (timeout : Number) : String := "timed out after " ++ timeout.shortText ++ "s"

/-- What a value means as the answer to a call. -/
def Call.settleValue (c : Call) (v : Value) : Outcome :=
  match c with
  | .email recipient .. =>
    if v.truthy then .accepted [("to", .text recipient)]
    else .refused ("email to " ++ recipient ++ " was rejected")
  | .notification .. => .accepted [("notification_id", v)]
  | .customer id _ =>
    if v.truthy then .accepted [("customer_id", .text id)]
    else .refused ("customer not found: " ++ id)
  | .http .. => .accepted []

/-- What a reply means for the action that made the call. -/
def Call.settle (c : Call) (timeout : Number) : Reply → Outcome
  | .value v => c.settleValue v
  | .response status =>
    if isAccepted status then .accepted [("status_code", .int status)]
    else .refused ("webhook returned HTTP " ++ toString status)
  | .raised f => ⟨f.report, []⟩
  | .expired => .refused (expiredMessage timeout)

end Automation
