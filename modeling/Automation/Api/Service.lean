import Automation.Api.Origin
import Automation.Api.Route
import Automation.Api.Schema
import Automation.Presentation

/-!
# The service

The automation over HTTP.  A `Service` is an engine with the settings it was started with.
`Service.respond` answers one request: it finds the endpoint, reads what the endpoint needs, and
asks the engine.  A request that cannot be read does not reach the engine.  `Service.handle` is the
same for callers that may be browsers.

There are three limits to how deep the values in a request may nest.  A content that is read may
nest deepest (`Json.levelLimit`), a workflow that is stored less deep since it is copied (`Room`),
and an answer least deep (`Response.depthLimit`).  What is copied besides, the event of a trigger
and the workflows that it looks up, is supposed to be within the second limit.
-/

namespace Automation.Api

/-- A request. -/
structure Request where
  /-- The method. -/
  method : String
  /-- The scheme and the host that it was sent to. -/
  site : String
  /-- The path. -/
  path : String
  /-- The query as it was sent, empty if there is none. -/
  search : String
  /-- The parameters. -/
  query : Query
  /-- The headers, with names in lower case. -/
  headers : Headers
  /-- The content. -/
  content : String

namespace Service

/-- Timestamps as the service writes them. -/
def time : TimeText := Timestamp.isoZulu

/-- The values that are around a part of a configuration where one workflow is shown. -/
def workflowFrame : Nat := 4

/-- The values that are around a part of a configuration in a listing of workflows. -/
def listingFrame : Nat := 5

/-- The values that are around a part of the output of an action in a page of the history. -/
def historyFrame : Nat := 6

end Service

/-- A workflow that nests no deeper than an answer may. -/
def isShallow (d : Definition) : Bool :=
  Response.depth (d.present Service.time) ≤ Service.workflowFrame + Response.depthLimit

/-- Which workflows there is room on the stack to copy.  It depends on what is on the stack already,
but there is room for all that an answer can show. -/
structure Room where
  /-- Whether a workflow can be copied. -/
  copies : Definition → Bool
  /-- A shallow one can. -/
  copies_of_isShallow : ∀ d, isShallow d = true → copies d = true

/-- How many values may be inside each other in what callers gave and is copied, about. -/
def Room.usualLimit : Nat := 480

/-- The room that there usually is. -/
def Room.usual : Room where
  copies d := Response.depth (d.present Service.time) ≤ Service.workflowFrame + Room.usualLimit
  copies_of_isShallow d h := by
    have hlimits : Response.depthLimit ≤ Room.usualLimit := by decide
    simp only [isShallow, decide_eq_true_eq] at h ⊢
    omega

/-- An engine that is called over HTTP. -/
structure Service where
  /-- The settings. -/
  settings : Settings
  /-- The engine. -/
  engine : Engine
  /-- The room for copies of workflows. -/
  room : Room := .usual

namespace Service

/-- The service that starts with some settings; `network` tells how requests to others are
answered. -/
def start (settings : Settings) (backend : Backend) (clock : Timestamp)
    (network : Nat → Http.Answer) : Service :=
  { settings
    engine := { Engine.empty backend clock with
      limits := settings.limits
      network := some network
      customers := some settings.customerService } }

/-! ## Reading -/

/-- Whether a type of content is one of JSON. -/
def isJsonType (type : String) : Bool :=
  let (name, _) := Text.cutAt ';' type.toList
  match Text.splitOn '/' (Text.lowerChars (Text.trimChars name)) with
  | [family, kind] =>
    String.ofList family == "application"
      && (String.ofList kind == "json" || (String.ofList kind).endsWith "+json")
  | _ => false

/-- The body of a request: JSON, or else octets. -/
def readBody {α : Type} (debug : Bool) (q : Request) (read : FieldReader α) :
    Except Response α :=
  let place := [Value.text "body"]
  let checked : Checked α → Except Response α := Except.mapError (Response.ofIssues debug)
  if q.content.isEmpty then checked (Issue.single .missing place .null)
  else if !isJsonType ((q.headers.get? "content-type").getD "") then
    checked (read place (.bytes q.content))
  else
    match Json.readContent q.content with
    | .ok v => checked (read place v)
    | .error (.unreadable (.malformed what position)) =>
      checked (Issue.single (.json what) (place ++ [.int position]) (.mapping []))
    | .error _ =>
      .error (.protocolError false 400 (.text "There was an error parsing the body"))

/-- The parameters of a request. -/
def readParameters {α : Type} (debug : Bool) (p : Checked α) : Except Response α :=
  p.mapError (Response.ofIssues debug)

/-- The request for a page of the history that parameters make. -/
def historyParameters (q : Query) : Checked HistoryRequest :=
  (Checked.both (textParameter q "workflow_id") <|
    Checked.both (textParameter q "event_type") <|
    Checked.both (textParameter q "status") <|
    Checked.both (timeParameter q "start") <|
    Checked.both (timeParameter q "end") (pageParameters q)).map
  fun (workflowId, eventType, status, start, stop, page, limit) =>
    { filter := { workflowId, eventType, status, start, stop }, page, limit }

/-! ## Writing -/

/-- How a page of the history is shown. -/
def presentPage (p : HistoryPage) : Value :=
  .mapping [("data", .list (p.data.map (ExecutionRecord.present time))), ("total", .ofNat p.total),
    ("pagination", .mapping [("page", .int p.page), ("limit", .int p.limit),
      ("total_pages", .int p.totalPages)])]

/-- The name of a backend. -/
def backendName : Backend → String
  | .memory => "memory"
  | .database => "postgres"

/-! ## Answering -/

/-- The response to a request that was read, or the response that refuses it. -/
def given {α : Type} (s : Service) (input : Except Response α)
    (f : α → Response × Engine) : Response × Engine :=
  match input with
  | .ok x => f x
  | .error r => (r, s.engine)

/-- The fault of a workflow that there is no room to copy. -/
def roomFault : Fault := .withText .recursion "maximum recursion depth exceeded"

/-- What comes of a change of the workflows where there may be no room: a workflow is copied before
it is stored, so that nothing is stored that cannot be copied.  An identifier that was issued is
used up. -/
def copied (s : Service) (r : Except Failure Definition × Engine) :
    Except Failure Definition × Engine :=
  match r.1 with
  | .ok d =>
    if s.room.copies d then r
    else (.error (.fault roomFault), { s.engine with issued := r.2.issued })
  | .error _ => r

/-- The response to what came of a change of the workflows. -/
def changed (s : Service) (status : Int) (r : Except Failure Definition × Engine) :
    Response × Engine :=
  let (result, engine) := s.copied r
  (.ofResult s.settings.debug workflowFrame status (result.map (Definition.present time)), engine)

/-- The response to what the engine was asked without a change. -/
def reading (s : Service) (frame : Nat) (r : Except Failure Value) : Response × Engine :=
  (.ofResult s.settings.debug frame 200 r, s.engine)

/-- What came of a change of the store as the outcome of a request. -/
def stored (r : Except StoreError Definition × Engine) : Except Failure Definition × Engine :=
  (r.1.mapError StoreError.toFailure, r.2)

/-- The response to a request at an endpoint. -/
def serve (s : Service) (q : Request) (e : Endpoint) : Response × Engine :=
  let debug := s.settings.debug
  match e with
  | .health => s.reading 0 <| .ok <|
    .mapping [("status", .text "ok"), ("backend", .text (backendName s.engine.backend))]
  | .createWorkflow => s.given (readBody debug q readDraft) fun d =>
    s.changed 201 (stored (s.engine.createWorkflow d))
  | .listWorkflows =>
    let parameters := Checked.both (boolParameter q.query "is_active")
      (textParameter q.query "event_type")
    s.given (readParameters debug parameters) fun (isActive, eventType) =>
      s.reading listingFrame ((s.engine.listWorkflows isActive eventType).map fun ds =>
        .list (ds.map (Definition.present time)))
  | .listStarters => s.reading listingFrame (.ok (.list (Starter.all.map Starter.present)))
  | .createFromStarter => s.given (readBody debug q readStarterChoice) fun c =>
    s.changed 201 (s.engine.createFromStarter (.text c.templateId) (.text c.name)
      (.mapping c.customizations))
  | .statistics => s.given (readParameters debug (timeParameter q.query "since")) fun since =>
    s.reading 0 ((s.engine.statistics since).map Statistics.present)
  | .history => s.given (readParameters debug (historyParameters q.query)) fun h =>
    s.reading historyFrame ((s.engine.history h).map presentPage)
  | .getWorkflow id => s.reading workflowFrame <|
    ((Store.get s.engine.repository id).mapError StoreError.toFailure).map (Definition.present time)
  | .updateWorkflow id => s.given (readBody debug q readPatch) fun p =>
    s.changed 200 (stored (s.engine.updateWorkflow id p))
  | .deleteWorkflow id =>
    match s.engine.deleteWorkflow id with
    | (.ok _, engine) => (.bare 204, engine)
    | (.error e, engine) => (.ofFailure debug e.toFailure, engine)
  | .metrics id => s.reading 0 ((s.engine.metrics id).map (Metrics.present time))
  | .workflowHistory id =>
    s.given (readParameters debug (pageParameters q.query)) fun (page, limit) =>
    s.reading historyFrame do
      discard ((Store.get s.engine.repository id).mapError StoreError.toFailure)
      let p ← s.engine.history { filter := { workflowId := .text id }, page, limit }
      return presentPage p
  | .trigger => s.given (readBody debug q readEvent) fun b =>
    let (r, engine) := s.engine.trigger (.text b.eventType) (.mapping b.context)
    (.answer debug 0 200 (.mapping r.present), engine)

/-- The response to a request that goes to no endpoint; `address` tells where a path is. -/
def unserved (address : String → String) : Target → Response
  | .redirect path => .redirect (address path)
  | .nowhere => .ofStatus 404
  | _ => .ofStatus 405

/-- The response to a request. -/
def respond (s : Service) (q : Request) : Response × Engine :=
  match target q.method q.path with
  | .endpoint e => s.serve q e
  | t => (unserved (addressOf q.site q.search) t, s.engine)

/-- The response without its body where only the headers are asked for. -/
def withoutBody (q : Request) (r : Response) : Response :=
  if q.method = "HEAD" then { r with body := .empty } else r

/-- The response to a request that may come from a page of another origin.  An internal error is
told to no other origin. -/
def handle (s : Service) (q : Request) : Response × Service :=
  let allowed := Origin.read s.settings.allowedOrigins
  let origin := q.headers.get? "origin"
  let asked := (q.headers.get? "access-control-request-method").filter fun _ =>
    q.method == "OPTIONS"
  match origin, asked with
  | some origin, some method => (Origin.preflight allowed origin method q.headers, s)
  | _, _ =>
    let (r, engine) := s.respond q
    let added := if r.status = 500 then [] else Origin.responseHeaders allowed origin
    (withoutBody q { r with headers := r.headers ++ added }, { s with engine })

end Service

end Automation.Api
