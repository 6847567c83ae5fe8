import Automation.Number.Elapsed
import Automation.Value.Conversion
import Automation.Time.Timestamp
import Automation.Vocabulary

/-!
# Execution records

An `ActionResult` says how one action went, an `ExecutionRecord` how one workflow went for one
event.  The status of a record is meant to follow from its results (`Status.ofResults`), but a
record that comes from outside may say otherwise.
-/

namespace Automation

/-- How one action went. -/
structure ActionResult where
  /-- The kind of the action. -/
  actionType : Value
  /-- Whether it succeeded. -/
  success : Bool
  /-- How long it took, in milliseconds. -/
  duration : Double
  /-- What went wrong, null if nothing did. -/
  error : Value
  /-- What it produced. -/
  output : Mapping
deriving Repr, Inhabited

namespace ActionResult

/-- The entry of a mapping that must be there. -/
def required (m : Mapping) (key : String) : Except Fault Value :=
  match Mapping.find? key m with
  | some v => .ok v
  | none => .error (.withText .key key)

/-- The result that a mapping describes.  Kind and success must be given. -/
def ofMapping (m : Mapping) : Except Fault ActionResult := do
  let actionType ← required m "action_type"
  let success ← required m "success"
  let duration ← Double.ofValue ((m.getD "duration_ms").orElse (.float .zero))
  let output ← Mapping.ofOptional (m.getD "output")
  return { actionType, success := success.truthy, duration, error := m.getD "error", output }

/-- The result as a mapping. -/
def toMapping (r : ActionResult) : Mapping :=
  [("action_type", r.actionType), ("success", .bool r.success), ("error", r.error),
    ("duration_ms", .float r.duration), ("output", .mapping r.output)]

end ActionResult

/-- The status of a workflow with these results. -/
def Status.ofResults (rs : List ActionResult) : Status := .ofOutcomes (rs.map (·.success))

/-- How one workflow went for one event. -/
structure ExecutionRecord where
  /-- Its identifier. -/
  id : String
  /-- The workflow. -/
  workflowId : String
  /-- The kind of event. -/
  eventType : EventType
  /-- When the workflow was started. -/
  triggeredAt : Timestamp
  /-- How it went as a whole. -/
  status : Status
  /-- How its actions went, in order. -/
  results : List ActionResult
  /-- How long it took, in milliseconds. -/
  totalDuration : Number
deriving Repr, Inhabited

namespace ExecutionRecord

/-- The results of the actions that failed, in order. -/
def failures (r : ExecutionRecord) : List ActionResult := r.results.filter fun a => !a.success

/-- The errors of the actions that failed: the kind of the action and what went wrong. -/
def errors (r : ExecutionRecord) : List String :=
  r.failures.map fun a => a.actionType.display ++ ": " ++ a.error.display

end ExecutionRecord

end Automation
