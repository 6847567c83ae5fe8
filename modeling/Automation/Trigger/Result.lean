import Automation.Trigger.Schedule
import Automation.Workflow.Store

/-!
# Triggers

An event triggers the active workflows of its kind whose conditions hold in it.  They are looked up
once (`Engine.lookUp`); what happens to them later does not reach the trigger.  Then they are
carried out, and the result says what came of it (`TriggerResult.of`), in the order of the
workflows and not in the order in which they were finished.

The result is a success if every execution was recorded, whatever the actions came to.  It is none
if the kind of event is unknown or the workflows cannot be looked up.
-/

namespace Automation

/-- Something that went wrong. -/
structure TriggerIssue where
  /-- The workflow, if it is about one. -/
  workflowId : Option String
  /-- The kind of the action, null if it is not about one. -/
  actionType : Value
  /-- What went wrong. -/
  error : Value
deriving Repr

/-- What came of a trigger. -/
structure TriggerResult where
  /-- Whether all was done that had to be done. -/
  success : Bool
  /-- The workflows that matched. -/
  workflowIds : List String
  /-- The number of actions that were carried out. -/
  executed : Nat
  /-- What went wrong. -/
  issues : List TriggerIssue
  /-- The executions that were recorded. -/
  executionIds : List String
deriving Repr

/-- Why an event triggers nothing. -/
inductive TriggerError where
  /-- The kind of event is unknown. -/
  | unknownEventType (e : RuleError)
  /-- The workflows cannot be looked up. -/
  | unavailable (t : EventType) (f : Failure)
deriving Repr

namespace TriggerError

/-- What is said about it. -/
def message : TriggerError → String
  | .unknownEventType e => e.message
  | .unavailable _ f => "failed to load workflows: " ++ f.text

/-- The kind of event, if it is known. -/
def eventType? : TriggerError → Option EventType
  | .unknownEventType _ => none
  | .unavailable t _ => some t

/-- The result that reports it. -/
def toResult (e : TriggerError) : TriggerResult :=
  { success := false
    workflowIds := []
    executed := 0
    issues := [⟨none, .null, .text e.message⟩]
    executionIds := [] }

end TriggerError

/-- An event with the workflows it triggers. -/
structure Match where
  /-- The kind of event. -/
  eventType : EventType
  /-- The event. -/
  context : Value
  /-- The workflows. -/
  definitions : List Definition
deriving Repr

namespace Match

/-- The tasks of the trigger of a number. -/
def tasks (m : Match) (trigger : Nat) : List Task :=
  m.definitions.mapIdx fun place d =>
    { trigger, place, definition := d, eventType := m.eventType, context := m.context
      rest := d.actions, stage := .fresh }

end Match

namespace TriggerResult

/-- What went wrong in an execution: the failed actions, and then the recording. -/
def issuesOf (f : Finished) : List TriggerIssue :=
  (f.record.failures.map fun r =>
    ⟨some f.record.workflowId, r.actionType, r.error.orElse (.text "action failed")⟩)
  ++ (match f.fault with
    | some text => [⟨some f.record.workflowId, .null, .text text⟩]
    | none => [])

/-- The execution of the workflow at a place. -/
def executionAt (finished : List Finished) (place : Nat) : Option Finished :=
  finished.find? fun f => f.place == place

/-- The executions in the order of the workflows. -/
def inOrder (m : Match) (finished : List Finished) : List Finished :=
  (List.range m.definitions.length).filterMap (executionAt finished)

/-- The result of a trigger whose workflows were carried out. -/
def of (m : Match) (finished : List Finished) : TriggerResult :=
  let executions := inOrder m finished
  { success := executions.all fun f => f.fault.isNone
    workflowIds := m.definitions.map (·.id)
    executed := (executions.flatMap fun f => f.record.results).length
    issues := executions.flatMap issuesOf
    executionIds := (executions.filter fun f => f.fault.isNone).map (·.record.id) }

end TriggerResult

namespace Engine

/-- The workflows that an event triggers.  A store in memory gives away copies of them, and one that
nests too deeply to be copied would fail here; as in `Automation.Workflow.Repository`, that is no
part of the model. -/
def lookUp (s : Engine) (eventType context : Value) : Except TriggerError Match :=
  match checkEventType eventType with
  | .error e => .error (.unknownEventType e)
  | .ok t =>
    match Mapping.ofOptional context, s.listFailure with
    | .error f, _ => .error (.unavailable t (.fault f))
    | .ok _, some f => .error (.unavailable t f)
    | .ok context, none =>
      let definitions := Store.active s.repository t
      .ok ⟨t, .mapping context, definitions.filter (·.matchedBy (.mapping context))⟩

/-- The name of the operation of a trigger. -/
def triggerName : String := "trigger_pipeline.trigger"

/-- The event of a workflow that was carried out and recorded. -/
def executedEvent (f : Finished) : SpanEvent :=
  { name := "workflow.executed"
    attributes := [("workflow_id", .text f.record.workflowId),
      ("status", .text f.record.status.name)] }

/-- The span of a trigger. -/
def triggerSpan (t : Option EventType) (finished : List Finished) : Span :=
  { name := some triggerName
    attributes := (match t with | some t => [("event_type", .text t.name)] | none => [])
    status := .ok
    events := Span.latest ((finished.filter fun f => f.fault.isNone).map executedEvent) }

/-- What came of the trigger of a number, with its span. -/
def triggered (finished : List Finished) (trigger : Nat) (m : Except TriggerError Match) :
    TriggerResult × Span :=
  match m with
  | .error e => (e.toResult, triggerSpan e.eventType? [])
  | .ok m =>
    let finished := finished.filter fun f => f.trigger == trigger
    (.of m finished, triggerSpan (some m.eventType) finished)

/-- The tasks of some triggers. -/
def tasksOf (ms : List (Except TriggerError Match)) : List Task :=
  (ms.mapIdx fun trigger m =>
    match m with
    | .ok m => m.tasks trigger
    | .error _ => []).flatten

/-- The workflows that were looked up by some triggers, carried out side by side. -/
def carryOut (s : Engine) (ms : List (Except TriggerError Match)) : List TriggerResult × Engine :=
  let done := Schedule.run { engine := s, ready := tasksOf ms }
  let results := ms.mapIdx (triggered done.finished)
  (results.map (·.1), (results.map (·.2)).foldl addSpan done.engine)

/-- Events of one kind that come at the same time. -/
def triggerAll (s : Engine) (eventType : Value) (contexts : List Value) :
    List TriggerResult × Engine :=
  s.carryOut (contexts.map (s.lookUp eventType))

/-- An event. -/
def trigger (s : Engine) (eventType context : Value) : TriggerResult × Engine :=
  let m := s.lookUp eventType context
  let done := Schedule.run { engine := s, ready := tasksOf [m] }
  let (result, span) := triggered done.finished 0 m
  (result, done.engine.addSpan span)

end Engine

end Automation
