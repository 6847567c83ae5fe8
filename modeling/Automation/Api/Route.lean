import Automation.Http.Url
import Automation.Text.Percent

/-!
# Targets of requests

A request names a path and a method.  The routes are tried in order; the first one whose path and
method fit tells the `Endpoint`.  If only the path fits, the method is not allowed; if the path
would fit with or without a slash at its end, the caller is sent there.

A path is cut into segments after its octets are decoded, so a slash that was encoded separates
segments too.  A line end after the last word of a path does not count.  A query is decoded part by
part, a plus being a blank.
-/

namespace Automation.Api

/-- What a request is for. -/
inductive Endpoint where
  /-- Whether the service is there. -/
  | health
  /-- A new workflow. -/
  | createWorkflow
  /-- The workflows. -/
  | listWorkflows
  /-- The starters. -/
  | listStarters
  /-- A new workflow made from a starter. -/
  | createFromStarter
  /-- Statistics of all workflows. -/
  | statistics
  /-- The history of all workflows. -/
  | history
  /-- One workflow. -/
  | getWorkflow (id : String)
  /-- A change of a workflow. -/
  | updateWorkflow (id : String)
  /-- The end of a workflow. -/
  | deleteWorkflow (id : String)
  /-- Statistics of one workflow. -/
  | metrics (id : String)
  /-- The history of one workflow. -/
  | workflowHistory (id : String)
  /-- An event. -/
  | trigger
deriving DecidableEq, Repr

/-- A segment of the path of a route. -/
inductive Segment where
  /-- A fixed word. -/
  | word (s : String)
  /-- The identifier of a workflow. -/
  | identifier
deriving DecidableEq, Repr

/-- A route. -/
structure Route where
  /-- The method. -/
  method : String
  /-- The path below the root of the service. -/
  path : List Segment
  /-- What it is for, given the identifier in its path. -/
  endpoint : String → Endpoint

/-- A route below the workflows. -/
def workflowRoute (method : String) (path : List Segment) (endpoint : String → Endpoint) : Route :=
  ⟨method, .word "workflows" :: path, endpoint⟩

/-- All routes, in the order in which they are tried. -/
def routes : List Route := [
  ⟨"GET", [.word "health"], fun _ => .health⟩,
  workflowRoute "POST" [] fun _ => .createWorkflow,
  workflowRoute "GET" [] fun _ => .listWorkflows,
  workflowRoute "GET" [.word "templates"] fun _ => .listStarters,
  workflowRoute "POST" [.word "from-template"] fun _ => .createFromStarter,
  workflowRoute "GET" [.word "stats"] fun _ => .statistics,
  workflowRoute "GET" [.word "executions"] fun _ => .history,
  workflowRoute "GET" [.identifier] .getWorkflow,
  workflowRoute "PUT" [.identifier] .updateWorkflow,
  workflowRoute "DELETE" [.identifier] .deleteWorkflow,
  workflowRoute "GET" [.identifier, .word "metrics"] .metrics,
  workflowRoute "GET" [.identifier, .word "executions"] .workflowHistory,
  ⟨"POST", [.word "events", .word "trigger"], fun _ => .trigger⟩]

/-- The identifier in a path that fits, empty if the path has none. -/
def fitSegments : List Segment → List String → Option String
  | [], [] => some ""
  | [.word s], [t] => if t = s ∨ t = s ++ "\n" then some "" else none
  | .word s :: rest, t :: ts => if s = t then fitSegments rest ts else none
  | .identifier :: rest, t :: ts =>
    if t.isEmpty then none else (fitSegments rest ts).map fun _ => t
  | _, _ => none

/-- Where the routes are. -/
def root : List String := ["", "api", "v1"]

/-- The segments of a path. -/
def segmentsOf (path : String) : List String := (Text.splitOn '/' path.toList).map String.ofList

/-- The segments below the root of the service. -/
def belowRoot? (path : String) : Option (List String) :=
  let segments := segmentsOf path
  if segments.take root.length = root then some (segments.drop root.length) else none

/-- The identifier in a path that fits the route. -/
def Route.fit? (r : Route) (path : String) : Option String :=
  (belowRoot? path).bind (fitSegments r.path)

/-- Where a request goes. -/
inductive Target where
  /-- To an endpoint. -/
  | endpoint (e : Endpoint)
  /-- Nowhere: the method is not allowed. -/
  | wrongMethod
  /-- To another path. -/
  | redirect (path : String)
  /-- Nowhere. -/
  | nowhere
deriving DecidableEq, Repr

/-- The path with a slash at its end taken away, or else added. -/
def toggleSlash (path : String) : String :=
  if path.endsWith "/" then String.ofList (Text.trimEnd '/' path.toList) else path ++ "/"

/-- Whether a path fits any route. -/
def isRouted (path : String) : Bool := routes.any fun r => (r.fit? path).isSome

/-- The endpoint of the first route that a path and a method fit. -/
def endpoint? (method path : String) : Option Endpoint :=
  routes.findSome? fun r =>
    if r.method = method then (r.fit? path).map r.endpoint else none

/-- Where a request goes. -/
def target (method path : String) : Target :=
  match endpoint? method path with
  | some e => .endpoint e
  | none =>
    if isRouted path then .wrongMethod
    else if path != "/" && isRouted (toggleSlash path) then .redirect (toggleSlash path)
    else .nowhere

/-- Where a request goes in a service whose only route is one path with one method: nowhere, or
there. -/
def soleTarget (route method path : String) : Target :=
  if path = route ∨ path = route ++ "\n" then
    (if method = "GET" then .endpoint .health else .wrongMethod)
  else if path != "/" && toggleSlash path = route then .redirect route
  else .nowhere

/-! ## Addresses -/

/-- A part of a query with its octets read back. -/
def decodePart (cs : List Char) : String :=
  String.ofList (Text.Percent.decode (cs.map fun c => if c = '+' then ' ' else c))

/-- The parameters of a query. -/
def readQuery (s : String) : List (String × String) :=
  ((Text.splitOn '&' s.toList).filter fun part => !part.isEmpty).map fun part =>
    let (name, value) := Text.cutAt '=' part
    (decodePart name, decodePart (value.getD []))

/-- What an address may hold as it is where it is told to a caller. -/
def addressSafe (c : Char) : Bool :=
  Text.Percent.isUnreserved c || ":/%#?=@[]!$&'()*+,;".toList.contains c

/-- The address of a path at a site, with the query that was asked for. -/
def addressOf (site query path : String) : String :=
  let address := site ++ path ++ (if query.isEmpty then "" else "?" ++ query)
  String.ofList (Text.Percent.encode addressSafe address.toList)

/-- The path and the parameters of an address. -/
def readAddress (u : Http.Url) : String × List (String × String) :=
  let path := String.ofList (Text.Percent.decode u.path.toList)
  (if path.isEmpty then "/" else path, readQuery (u.query.getD ""))

example : target "PUT" "/api/v1/workflows/templates"
    = .endpoint (.updateWorkflow "templates") := by decide +kernel
example : target "GET" "/api/v1/health/" = .redirect "/api/v1/health" := by decide +kernel

end Automation.Api
