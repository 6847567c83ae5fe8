import Automation.Column
import Automation.Workflow.Definition

/-!
# Rows of workflows

The database keeps a workflow as a row.  A row names the kind of event, and its columns of JSON hold
conditions and actions as mappings.  `WorkflowRow.apply` writes the fields of a workflow into a row,
`WorkflowRow.refreshed` is the row as the database gives it back, and `WorkflowRow.toDefinition`
reads it.
-/

namespace Automation

/-- A row of the table of workflows. -/
structure WorkflowRow where
  /-- The identifier. -/
  id : String
  /-- The name. -/
  name : String
  /-- What the workflow is for. -/
  description : Option String
  /-- The name of the kind of event. -/
  eventType : String
  /-- Whether events trigger the workflow. -/
  isActive : Bool
  /-- The conditions. -/
  conditions : List Mapping
  /-- The actions. -/
  actions : List Mapping
  /-- When the workflow was created. -/
  createdAt : Timestamp
  /-- When it was last changed. -/
  updatedAt : Timestamp

namespace WorkflowRow

/-- A row with the fields of a workflow.  The identifier and the time of creation stay those of the
row. -/
def apply (row : WorkflowRow) (d : Definition) : WorkflowRow :=
  { row with
    name := d.name
    description := d.description
    eventType := d.eventType.name
    isActive := d.isActive
    conditions := d.conditions.map Condition.toMapping
    actions := d.actions.map Action.toMapping
    updatedAt := d.updatedAt }

/-- The row of a workflow. -/
def ofDefinition (d : Definition) : WorkflowRow :=
  apply
    { id := d.id, name := "", description := none, eventType := "", isActive := true
      conditions := [], actions := [], createdAt := d.createdAt, updatedAt := d.createdAt } d

/-- A row as the database gives it back. -/
def refreshed (row : WorkflowRow) : Except Fault WorkflowRow := do
  return { row with
    conditions := ← jsonColumn row.conditions
    actions := ← jsonColumn row.actions
    createdAt := row.createdAt.column
    updatedAt := row.updatedAt.column }

/-- The workflow that a row is read as. -/
def toDefinition (row : WorkflowRow) : Except Fault Definition := do
  let some eventType := EventType.ofName? row.eventType
    | throw (nameFault "WorkflowEventType" row.eventType)
  return {
    id := row.id
    name := row.name
    description := row.description
    eventType
    isActive := row.isActive
    conditions := row.conditions.map Condition.ofMapping
    actions := ← row.actions.mapM Action.ofMapping
    createdAt := row.createdAt.toUtc
    updatedAt := row.updatedAt.toUtc }

/-- What is read of a row that was written. -/
def written (row : WorkflowRow) : Except Fault Definition := do
  (← row.refreshed).toDefinition

/-- The order of a listing: by time of creation, then by identifier. -/
def listedBefore (row other : WorkflowRow) : Bool :=
  if row.createdAt.clock = other.createdAt.clock then decide (row.id ≤ other.id)
  else decide (row.createdAt.clock < other.createdAt.clock)

end WorkflowRow

end Automation
