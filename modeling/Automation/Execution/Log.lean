import Automation.Execution.Row
import Automation.Workflow.Repository

/-!
# The execution log

Records are appended and never changed.  The log is listed newest first.  Records of one instant
come latest first in memory, and by descending identifier in the pages of the database; a listing of
the database leaves their order open, and here they come latest first in it too.

A filter selects records by workflow, event, status and a window of time that includes its start
and not its end.  Memory goes through the fields of a filter for every record
(`ExecutionFilter.admits`).  The database is asked a query whose conditions look at the columns of
rows (`ExecutionFilter.clauses`).  A window can be compared only with timestamps that carry an
offset; the times of rows are told in UTC.
-/

namespace Automation

/-- Which records a listing shows; a field that is null or absent admits all. -/
structure ExecutionFilter where
  /-- The workflow. -/
  workflowId : Value := .null
  /-- The name of the kind of event. -/
  eventType : Value := .null
  /-- The name of the status. -/
  status : Value := .null
  /-- The first instant. -/
  start : Option Timestamp := none
  /-- The instant after the last. -/
  stop : Option Timestamp := none

/-- The fault of ordering a timestamp with an offset and one without. -/
def orderFault : Fault :=
  .withText .type "can't compare offset-naive and offset-aware datetimes"

/-- The fault of a timestamp that leaves the calendar. -/
def calendarFault : Fault := .withText .overflow "date value out of range"

/-- A timestamp in UTC. -/
def Timestamp.inUtc (t : Timestamp) : Except Fault Timestamp :=
  match t.toUtc? with
  | some u => .ok u
  | none => .error calendarFault

/-- Whether a timestamp is before another. -/
def Timestamp.checkBefore (s t : Timestamp) : Except Fault Bool :=
  if s.comparable t then .ok (s.before t) else .error orderFault

namespace ExecutionFilter

/-- Whether a wanted name is left open or is the name given. -/
def admitsName (wanted : Value) (name : String) : Bool :=
  match wanted with
  | .null => true
  | .text s => s == name
  | _ => false

/-- Whether the names of a record are those wanted. -/
def admitsNames (f : ExecutionFilter) (r : ExecutionRecord) : Bool :=
  admitsName f.workflowId r.workflowId && admitsName f.eventType r.eventType.name
    && admitsName f.status r.status.name

/-- Whether a timestamp is not before a bound, if there is one. -/
def notBefore (t : Timestamp) : Option Timestamp → Except Fault Bool
  | none => .ok true
  | some bound => do
    let bound ← bound.inUtc
    return !(← t.checkBefore bound)

/-- Whether a timestamp is before a bound, if there is one. -/
def isBefore (t : Timestamp) : Option Timestamp → Except Fault Bool
  | none => .ok true
  | some bound => do t.checkBefore (← bound.inUtc)

/-- Whether a record in memory is wanted.  Bounds are looked at only for records that pass the
rest. -/
def admits (f : ExecutionFilter) (r : ExecutionRecord) : Except Fault Bool :=
  if !f.admitsNames r then .ok false
  else do
    if ← notBefore r.triggeredAt f.start then isBefore r.triggeredAt f.stop else return false

/-- A condition of a query. -/
abbrev Clause := ExecutionRow → Except Fault Bool

/-- The condition that a column holds a wanted name; none if the name is left open.  A value that is
no text is no name. -/
def nameClauses (wanted : Value) (column : ExecutionRow → String) : List Clause :=
  match wanted with
  | .null => []
  | .text s => [fun row => .ok (column row == s)]
  | _ => [fun _ => .ok false]

/-- The conditions of the query for the rows that are wanted.  Bounds are told in UTC when the query
is made. -/
def clauses (f : ExecutionFilter) : Except Fault (List Clause) := do
  let start ← f.start.mapM Timestamp.inUtc
  let stop ← f.stop.mapM Timestamp.inUtc
  return nameClauses f.workflowId (·.workflowId) ++ nameClauses f.eventType (·.eventType)
    ++ nameClauses f.status (·.status)
    ++ (start.toList.map fun bound row => do return !(← row.triggeredAt.checkBefore bound))
    ++ stop.toList.map fun bound row => row.triggeredAt.checkBefore bound

/-- Whether a row meets all conditions of a query. -/
def meets (row : ExecutionRow) : List Clause → Except Fault Bool
  | [] => .ok true
  | clause :: rest => do
    if ← clause row then meets row rest else return false

end ExecutionFilter

/-- The log. -/
structure Log where
  /-- The backend. -/
  backend : Backend
  /-- The records in the order in which they were appended. -/
  records : List ExecutionRecord
deriving Inhabited

/-- The members of a list that pass a check which may fail. -/
def filterChecked {α : Type} (check : α → Except Fault Bool) : List α → Except Fault (List α)
  | [] => .ok []
  | x :: rest => do
    let keep ← check x
    let rest ← filterChecked check rest
    return if keep then x :: rest else rest

/-- The members of a list from place `start` to before place `stop`; negative places count from the
end. -/
def slice {α : Type} (xs : List α) (start stop : Int) : List α :=
  let place (i : Int) : Nat := (if i < 0 then i + xs.length else i).toNat
  (xs.take (place stop)).drop (place start)

namespace Log

/-- A log without records. -/
def empty (b : Backend) : Log := ⟨b, []⟩

/-- A record added at the end.  The database refuses what it has no form for, a duration that is
not a number, and an identifier that is taken. -/
def append (l : Log) (r : ExecutionRecord) : Except Fault Log :=
  match l.backend with
  | .memory => .ok { l with records := l.records ++ [r] }
  | .database => do
    let kept ← (ExecutionRow.ofRecord r).written
    if l.records.any (·.id == r.id) then throw ⟨.integrity, []⟩
    return { l with records := l.records ++ [kept] }

/-- Whether a record comes before another when the newest come first. -/
def newerFirst (r s : ExecutionRecord) : Bool := !r.triggeredAt.before s.triggeredAt

/-- Newer first, and by descending identifier among records of one instant. -/
def newerFirstById (r s : ExecutionRecord) : Bool :=
  if r.triggeredAt.utcClock = s.triggeredAt.utcClock then decide (s.id ≤ r.id)
  else s.triggeredAt.before r.triggeredAt

/-- Whether all timestamps of records can be ordered. -/
def orderable (rs : List ExecutionRecord) : Bool :=
  rs.all (fun r => r.triggeredAt.isNaive) || rs.all (fun r => !r.triggeredAt.isNaive)

/-- The records whose rows meet the conditions of a query, the latest appended first. -/
def meeting (l : Log) (clauses : List ExecutionFilter.Clause) :
    Except Fault (List ExecutionRecord) :=
  filterChecked (fun r => ExecutionFilter.meets (.ofRecord r) clauses) l.records.reverse

/-- The number of rows that meet the conditions of a query. -/
def count (l : Log) (clauses : List ExecutionFilter.Clause) : Except Fault Nat := do
  return (← l.meeting clauses).length

/-- The records wanted, the latest appended first. -/
def wanted (l : Log) (f : ExecutionFilter) : Except Fault (List ExecutionRecord) :=
  match l.backend with
  | .memory => filterChecked f.admits l.records.reverse
  | .database => do l.meeting (← f.clauses)

/-- The records wanted, newest first. -/
def listing (l : Log) (f : ExecutionFilter) : Except Fault (List ExecutionRecord) := do
  let rs ← l.wanted f
  if orderable rs then return rs.mergeSort newerFirst else throw orderFault

/-- The most rows that the database skips. -/
def skipLimit : Int := 9223372036854775808

/-- The rows from place `skip` on that meet the conditions of a query, `limit` at most; a limit
below zero is none. -/
def page (l : Log) (clauses : List ExecutionFilter.Clause) (skip limit : Int) :
    Except Fault (List ExecutionRecord) := do
  if skipLimit ≤ skip || skipLimit ≤ limit || skip < -skipLimit || limit < -skipLimit then
    throw ⟨.overflow, []⟩
  let rest := ((← l.meeting clauses).mergeSort newerFirstById).drop skip.toNat
  return if limit < 0 then rest else rest.take limit.toNat

/-- A part of the listing with the number of all records wanted. -/
def query (l : Log) (f : ExecutionFilter) (skip limit : Int) :
    Except Fault (List ExecutionRecord × Nat) :=
  match l.backend with
  | .memory => do
    let rs ← l.listing f
    return (slice rs skip (skip + limit), rs.length)
  | .database => do
    let clauses ← f.clauses
    let total ← l.count clauses
    return (← l.page clauses skip limit, total)

end Log

end Automation
