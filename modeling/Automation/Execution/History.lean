import Automation.Execution.Log

/-!
# Pages of the history

The history of executions is read in pages.  A request is checked first (`HistoryRequest.check`):
the page, the size of a page, the status, the kind of event and the window of time, in this order.
-/

namespace Automation

/-- Why a page of the history is refused. -/
inductive HistoryError where
  /-- Pages count from one. -/
  | badPage
  /-- The size of a page is out of range. -/
  | badLimit
  /-- No known status. -/
  | unknownStatus (given : Value)
  /-- No known kind of event. -/
  | unknownEventType (given : Value)
  /-- A window of time that does not start before it ends. -/
  | emptyWindow
  /-- The storage reports a fault, or the bounds cannot be ordered. -/
  | storage (f : Fault)
deriving Repr

/-- The largest size of a page. -/
def maxPageSize : Nat := 200

namespace HistoryError

/-- The failure that reports it. -/
def toFailure : HistoryError → Failure
  | .badPage => .engine (.validation (.text "page must be >= 1") (.text "page"))
  | .badLimit =>
    .engine (.validation (.text s!"limit must be between 1 and {maxPageSize}") (.text "limit"))
  | .unknownStatus v =>
    .engine (.validation (.text ("Unknown status: " ++ v.inspect)) (.text "status"))
  | .unknownEventType v => .engine (RuleError.unknownEventType v).toEngineError
  | .emptyWindow =>
    .engine (.validation (.text "start must be before end") (.text "start"))
  | .storage f => .fault f

end HistoryError

/-- A request for a page of the history. -/
structure HistoryRequest where
  /-- Which records. -/
  filter : ExecutionFilter := {}
  /-- The page, from one. -/
  page : Int := 1
  /-- The size of a page. -/
  limit : Int := 50

/-- A page of the history. -/
structure HistoryPage where
  /-- The records, newest first. -/
  data : List ExecutionRecord
  /-- The number of records on all pages. -/
  total : Nat
  /-- The page. -/
  page : Int
  /-- The size of a page. -/
  limit : Int

/-- The number of pages. -/
def HistoryPage.totalPages (p : HistoryPage) : Int := (p.total + p.limit - 1) / p.limit

namespace HistoryRequest

/-- The name of a known status, or nothing wanted. -/
def checkStatus (v : Value) : Except HistoryError Value :=
  match v with
  | .null => .ok .null
  | .text s => if (Status.ofName? s).isSome then .ok v else .error (.unknownStatus v)
  | v => .error (.unknownStatus v)

/-- The usual name of a known kind of event, or nothing wanted. -/
def checkEvent (v : Value) : Except HistoryError Value :=
  match v with
  | .null => .ok .null
  | v =>
    match checkEventType v with
    | .ok t => .ok (.text t.name)
    | .error _ => .error (.unknownEventType v)

/-- Whether a window of time starts before it ends. -/
def checkWindow (start stop : Option Timestamp) : Except HistoryError Unit :=
  match start, stop with
  | some s, some t =>
    if !s.comparable t then .error (.storage orderFault)
    else if s.before t then .ok ()
    else .error .emptyWindow
  | _, _ => .ok ()

/-- The filter of a request that is acceptable. -/
def check (q : HistoryRequest) : Except HistoryError ExecutionFilter :=
  if q.page < 1 then .error .badPage
  else if q.limit < 1 ∨ (maxPageSize : Int) < q.limit then .error .badLimit
  else do
    let status ← checkStatus q.filter.status
    let eventType ← checkEvent q.filter.eventType
    checkWindow q.filter.start q.filter.stop
    return { q.filter with status, eventType }

end HistoryRequest

/-- A page of the history of a log. -/
def Log.history (l : Log) (q : HistoryRequest) : Except HistoryError HistoryPage := do
  let f ← q.check
  match l.query f ((q.page - 1) * q.limit) q.limit with
  | .ok (data, total) => return { data, total, page := q.page, limit := q.limit }
  | .error e => throw (.storage e)

end Automation
