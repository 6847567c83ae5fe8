import Automation.Column
import Automation.Execution.Record

/-!
# Rows of executions

The database keeps an execution record as a row.  A row names the kind of event and the status, and
a column of JSON holds the results as mappings.  `ExecutionRow.refreshed` is the row as the database
gives it back, `ExecutionRow.toRecord` reads it.
-/

namespace Automation

/-- A row of the table of executions. -/
structure ExecutionRow where
  /-- The identifier. -/
  id : String
  /-- The workflow. -/
  workflowId : String
  /-- The name of the kind of event. -/
  eventType : String
  /-- When the workflow was started. -/
  triggeredAt : Timestamp
  /-- The name of the status. -/
  status : String
  /-- How the actions went. -/
  results : List Mapping
  /-- How long the workflow took, in milliseconds. -/
  totalDuration : Number

namespace ExecutionRow

/-- The row of a record. -/
def ofRecord (r : ExecutionRecord) : ExecutionRow where
  id := r.id
  workflowId := r.workflowId
  eventType := r.eventType.name
  triggeredAt := r.triggeredAt
  status := r.status.name
  results := r.results.map ActionResult.toMapping
  totalDuration := r.totalDuration

/-- A row as the database gives it back. -/
def refreshed (row : ExecutionRow) : Except Fault ExecutionRow := do
  return { row with
    triggeredAt := row.triggeredAt.column
    results := ← jsonColumn row.results
    totalDuration := .double (← row.totalDuration.column) }

/-- The record that a row is read as. -/
def toRecord (row : ExecutionRow) : Except Fault ExecutionRecord := do
  let some eventType := EventType.ofName? row.eventType
    | throw (nameFault "WorkflowEventType" row.eventType)
  let some status := Status.ofName? row.status | throw (nameFault "ExecutionStatus" row.status)
  return {
    id := row.id
    workflowId := row.workflowId
    eventType
    triggeredAt := row.triggeredAt.toUtc
    status
    results := ← row.results.mapM ActionResult.ofMapping
    totalDuration := row.totalDuration }

/-- What is read of a row that was written. -/
def written (row : ExecutionRow) : Except Fault ExecutionRecord := do
  (← row.refreshed).toRecord

end ExecutionRow

end Automation
