import Automation.Management
import Automation.Trigger.Result

/-!
# Presentation

The form in which workflows, executions and statistics are shown to callers: mappings with fixed
keys.  How timestamps are written is up to the caller.
-/

namespace Automation

/-- A way of writing timestamps. -/
abbrev TimeText := Timestamp → String

/-- A text, or null. -/
def Value.ofText? (s : Option String) : Value := (s.map Value.text).getD .null

/-- A list of texts. -/
def Value.ofTexts (ss : List String) : Value := .list (ss.map Value.text)

/-- A natural number. -/
def Value.ofNat (n : Nat) : Value := .int n

/-- A number as a value. -/
def Value.ofNumber : Number → Value
  | .int n => .int n
  | .double x => .float x

/-- How a workflow is shown. -/
def Definition.present (time : TimeText) (d : Definition) : Value :=
  .mapping [("id", .text d.id), ("name", .text d.name), ("description", .ofText? d.description),
    ("event_type", .text d.eventType.name), ("is_active", .bool d.isActive),
    ("conditions", .list (d.conditions.map Condition.toValue)),
    ("actions", .list (d.actions.map Action.toValue)),
    ("created_at", .text (time d.createdAt)), ("updated_at", .text (time d.updatedAt))]

/-- How a starter is shown. -/
def Starter.present (s : Starter) : Value :=
  .mapping [("id", .text s.id), ("name", .text s.name), ("description", .text s.description),
    ("category", .text s.category), ("event_type", .text s.eventType.name),
    ("conditions", .list (s.conditions.map Condition.toValue)),
    ("actions", .list (s.actions.map Action.toValue))]

/-- How the result of an action is shown. -/
def ActionResult.present (r : ActionResult) : Value := .mapping r.toMapping

/-- How the record of an execution is shown. -/
def ExecutionRecord.present (time : TimeText) (r : ExecutionRecord) : Value :=
  .mapping [("id", .text r.id), ("workflow_id", .text r.workflowId),
    ("event_type", .text r.eventType.name), ("triggered_at", .text (time r.triggeredAt)),
    ("status", .text r.status.name),
    ("action_results", .list (r.results.map ActionResult.present)),
    ("total_duration_ms", .ofNumber r.totalDuration), ("errors", .ofTexts r.errors)]

/-- How something that went wrong is shown. -/
def TriggerIssue.present (e : TriggerIssue) : Value :=
  .mapping [("workflow_id", .ofText? e.workflowId), ("action_type", e.actionType),
    ("error", e.error)]

/-- How the result of a trigger is shown. -/
def TriggerResult.present (r : TriggerResult) : Mapping :=
  [("success", .bool r.success), ("triggered_workflow_ids", .ofTexts r.workflowIds),
    ("executed_actions_count", .ofNat r.executed),
    ("errors", .list (r.issues.map TriggerIssue.present)),
    ("execution_ids", .ofTexts r.executionIds)]

/-- How the counts of a kind of action are shown. -/
def ActionCounts.present (c : ActionCounts) : Value :=
  .mapping [("total", .ofNat c.total), ("successful", .ofNat c.successful),
    ("failed", .ofNat c.failed)]

/-- How one of the workflows executed most often is shown. -/
def TopWorkflow.present (t : TopWorkflow) : Value :=
  .mapping [("workflow_id", .text t.workflowId), ("name", .ofText? t.name),
    ("execution_count", .ofNat t.count), ("success_rate", .float t.successRate)]

/-- How the statistics of all workflows are shown. -/
def Statistics.present (s : Statistics) : Value :=
  .mapping [("total_workflows", .ofNat s.workflows), ("active_workflows", .ofNat s.activeWorkflows),
    ("total_executions", .ofNat s.executions),
    ("successful_executions", .ofNat s.successful),
    ("partial_executions", .ofNat s.mixed),
    ("failed_executions", .ofNat s.failed),
    ("success_rate", .float s.successRate), ("average_execution_time", .float s.averageDuration),
    ("executions_by_status", .mapping (s.byStatus.map fun e => (e.1.name, .ofNat e.2))),
    ("executions_by_event_type", .mapping (s.byEventType.map fun e => (e.1.name, .ofNat e.2))),
    ("action_type_breakdown", .mapping (s.actions.map fun c => (c.actionType, c.present))),
    ("top_workflows", .list (s.top.map TopWorkflow.present))]

/-- How the statistics of one workflow are shown. -/
def Metrics.present (time : TimeText) (m : Metrics) : Value :=
  .mapping [("workflow_id", .text m.workflowId), ("total_executions", .ofNat m.executions),
    ("successful_executions", .ofNat m.successful),
    ("partial_executions", .ofNat m.mixed),
    ("failed_executions", .ofNat m.failed),
    ("success_rate", .float m.successRate), ("average_execution_time", .float m.averageDuration),
    ("last_executed", .ofText? (m.lastExecuted.map time))]

/-- The attributes of events that are shown. -/
def SpanEvent.shownAttributes : List String :=
  ["workflow_id", "status", "exception.type", "exception.message"]

/-- How an event of a span is shown. -/
def SpanEvent.present (e : SpanEvent) : Value :=
  let shown := e.attributes.filter fun a => a.1.text?.any shownAttributes.contains
  .mapping [("name", .text e.name), ("attributes", .mapping shown)]

/-- How a span is shown. -/
def Span.present (s : Span) : Value :=
  .mapping [("name", .ofText? s.name), ("attributes", .mapping s.attributes),
    ("status", .text s.status.name), ("events", .list (s.events.map SpanEvent.present))]

/-- How a notification is shown; the database does not tell when it was created. -/
def Notification.present (b : Backend) (time : TimeText) (n : Notification) : Value :=
  let shown : Mapping := [
    ("id", .text n.id), ("title", .text n.title), ("message", .text n.message),
    ("type", .text n.type), ("priority", .text n.priority), ("user_id", .ofText? n.userId)]
  match b with
  | .memory => .mapping (shown.put "created_at" (.text (time n.createdAt)))
  | .database => .mapping shown

/-- How an email is shown. -/
def Email.Message.present (m : Email.Message) : Value :=
  .mapping [("to", .text m.recipient), ("subject", .text m.subject), ("body", .text m.body)]

/-- Header names and values as a mapping. -/
def Value.ofHeaders (hs : List (String × String)) : Value :=
  .mapping (hs.map fun h => (h.1, .text h.2))

/-- How a call of a collaborator is shown: which one, and with what. -/
def Call.present : Call → String × Mapping
  | .email recipient subject template values =>
    ("email.send", [("to", .text recipient), ("subject", .ofText? subject),
      ("template", .text template), ("variables", .mapping values)])
  | .notification title message type priority userId =>
    ("notification.create", [("title", .text title), ("message", .text message),
      ("type", .text type), ("priority", .text priority), ("user_id", .ofText? userId)])
  | .customer id fields =>
    ("customer.update", [("customer_id", .text id), ("patch", .mapping fields)])
  | .http url method headers body timeout =>
    ("http.request", [("url", .text url), ("method", .text method), ("headers", .ofHeaders headers),
      ("body", body), ("timeout", .ofNumber timeout)])

/-- How a request that was sent is shown, of the headers only those that the caller chose. -/
def Http.Request.present (r : Http.Request) : Value :=
  let telling := r.headers.filter fun h =>
    h.1 == "content-type" || h.1 == "authorization" || h.1.startsWith "x-"
  .mapping [("method", .text r.method), ("url", .text r.url), ("content", .text r.content),
    ("headers", .ofHeaders telling)]

end Automation
