import Automation.Action.Dispatch

/-!
# Tasks

A `Task` carries out one workflow for one event: the actions strictly one after the other, then the
record of the execution.  It is carried on until a collaborator lets others go first
(`Task.carryOn`), and again when its turn comes.

What a task does never depends on the result of an action that went before: a failure is a result
like any other, and the remaining actions are carried out all the same.
-/

namespace Automation

/-- A workflow that has been started. -/
structure Progress where
  /-- When it was started. -/
  triggeredAt : Timestamp
  /-- The same on the clock of durations. -/
  start : Double
  /-- How the actions went so far. -/
  results : List ActionResult
deriving Repr

/-- What a task does when its turn comes. -/
inductive Stage where
  /-- It asks for a slot. -/
  | fresh
  /-- It starts, having been given a slot. -/
  | admitted
  /-- It lets others go first a number of times, and then takes the reply it waits for. -/
  | calling (progress : Progress) (pending : Pending) (pauses : Nat)
  /-- It gives up waiting for a reply. -/
  | expired (progress : Progress) (pending : Pending)
deriving Repr

/-- A workflow to be carried out for an event. -/
structure Task where
  /-- The number of the trigger. -/
  trigger : Nat
  /-- The place of the workflow among those that match. -/
  place : Nat
  /-- The workflow. -/
  definition : Definition
  /-- The kind of event. -/
  eventType : EventType
  /-- The event. -/
  context : Value
  /-- The actions to come. -/
  rest : List Action
  /-- What it does next. -/
  stage : Stage
deriving Repr

/-- A workflow that was carried out. -/
structure Finished where
  /-- The number of the trigger. -/
  trigger : Nat
  /-- The place of the workflow among those that match. -/
  place : Nat
  /-- The record of the execution. -/
  record : ExecutionRecord
  /-- Why the record could not be kept, if so. -/
  fault : Option String
deriving Repr

/-- A task after its turn. -/
inductive Turn where
  /-- It waits, and its turn comes again. -/
  | suspended (t : Task)
  /-- It waits for a collaborator that never comes back. -/
  | stuck (t : Task)
  /-- It is done. -/
  | finished (f : Finished)

namespace Engine

/-- A record appended to the log. -/
def record (s : Engine) (r : ExecutionRecord) : Except Failure Engine :=
  match s.unrecordable? r.workflowId with
  | some f => .error f
  | none =>
    match s.log.append r with
    | .ok log => .ok { s with log }
    | .error f => .error (.fault f)

end Engine

namespace Task

/-- The record of a task whose actions are all carried out. -/
def conclude (t : Task) (p : Progress) (s : Engine) : Finished × Engine :=
  let (id, s) := s.issue
  let record : ExecutionRecord :=
    { id
      workflowId := t.definition.id
      eventType := t.eventType
      triggeredAt := p.triggeredAt
      status := .ofResults p.results
      results := p.results
      totalDuration := .double (p.start.elapsed s.ticks) }
  match s.record record with
  | .ok s => (⟨t.trigger, t.place, record, none⟩, s)
  | .error f =>
    (⟨t.trigger, t.place, record, some ("failed to record execution: " ++ f.text)⟩, s)

/-- The task waiting for a collaborator, `rest` being the actions after this one. -/
def wait (t : Task) (progress : Progress) (pending : Pending) (rest : List Action) (s : Engine) :
    Turn :=
  let b := pending.behaviour
  if b.hangs && !s.limits.actionTimeout.isSpent then
    .stuck { t with rest, stage := .expired progress pending }
  else if s.runsOut b then .suspended { t with rest, stage := .expired progress pending }
  else .suspended { t with rest, stage := .calling progress pending (b.pauses - 1) }

/-- The actions carried out one after the other, until one has to wait or none is left. -/
def carryOn (t : Task) (progress : Progress) : List Action → Engine → Turn × Engine
  | [], s =>
    let (f, s) := t.conclude progress s
    (.finished f, s)
  | a :: rest, s =>
    match s.begin a t.context ⟨t.definition.id, progress.results.length⟩ with
    | (.settled r, s) => t.carryOn { progress with results := progress.results ++ [r] } rest s
    | (.pending p, s) =>
      if p.behaviour.suspends then (t.wait progress p rest s, s)
      else
        let (r, s) := s.finish p false
        t.carryOn { progress with results := progress.results ++ [r] } rest s

/-- The task started. -/
def start (t : Task) (s : Engine) : Turn × Engine :=
  t.carryOn ⟨s.clock, s.ticks, []⟩ t.rest s

/-- The task carried on after its action was settled. -/
def resume (t : Task) (progress : Progress) (pending : Pending) (expired : Bool) (s : Engine) :
    Turn × Engine :=
  let (r, s) := s.finish pending expired
  t.carryOn { progress with results := progress.results ++ [r] } t.rest s

/-- Whether a task has a slot. -/
def hasSlot (t : Task) : Bool :=
  match t.stage with
  | .fresh => false
  | _ => true

end Task

/-! ## Fewer actions to come -/

/-- The number of actions to come after a turn. -/
def Turn.remaining : Turn → Nat
  | .suspended t => t.rest.length
  | .stuck t => t.rest.length
  | .finished _ => 0

/-- Whether a turn ended with the task done. -/
def Turn.isFinished : Turn → Bool
  | .finished _ => true
  | _ => false

theorem Task.remaining_wait (t : Task) (progress : Progress) (p : Pending) (rest : List Action)
    (s : Engine) : (t.wait progress p rest s).remaining = rest.length := by
  simp only [Task.wait]
  split
  · rfl
  · split <;> rfl

/-- A task that is carried on is done, or has fewer actions to come. -/
theorem Task.remaining_carryOn (t : Task) (actions : List Action) :
    ∀ (progress : Progress) (s : Engine),
      (t.carryOn progress actions s).1.isFinished = true ∨
        (t.carryOn progress actions s).1.remaining < actions.length := by
  induction actions with
  | nil => intro progress s; exact Or.inl rfl
  | cons a rest ih =>
    intro progress s
    rw [Task.carryOn]
    split
    · rename_i r s' _
      rcases ih { progress with results := progress.results ++ [r] } s' with h | h
      · exact Or.inl h
      · exact Or.inr (Nat.lt_succ_of_lt h)
    · rename_i p s' _
      split
      · refine Or.inr ?_
        show (t.wait progress p rest s').remaining < (a :: rest).length
        rw [Task.remaining_wait]
        exact Nat.lt_succ_self _
      · rcases ih { progress with results := progress.results ++ [(s'.finish p false).1] }
          (s'.finish p false).2 with h | h
        · exact Or.inl h
        · exact Or.inr (Nat.lt_succ_of_lt h)

end Automation
