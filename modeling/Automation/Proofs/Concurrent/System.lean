import Automation.Proofs.Concurrent.Update
import Automation.Proofs.Session.Basic

/-!
# Triggers and callers side by side

A *system* is an engine at which triggers and callers of the store arrive.  A trigger looks up its
workflows in one step, and each of them becomes an *errand*, whose steps are those of the actions
and of the recording.  Steps are made in any order (`System.run`): between two steps of one errand
there can be any steps of others, the callers can change what is stored, and the surroundings can
become other ones.

The *history* of a system tells what was looked up, which actions were begun for which event, and
what was recorded, in the order in which it happened.  `Errand.advances_step` says all that a step
of an errand does to the errand, to the engine and to the history.
-/

namespace Automation

/-! ## Errands -/

/-- How far an errand is. -/
inductive Phase where
  /-- It has not been started. -/
  | fresh
  /-- The actions that it has begun are settled. -/
  | ready (progress : Progress)
  /-- It waits for the reply to a call. -/
  | calling (progress : Progress) (pending : Pending)
  | finished (f : Finished)

/-- A workflow that is carried out step by step. -/
structure Errand where
  task : Task
  phase : Phase

/-- What happens in a step. -/
inductive Event where
  /-- A trigger looked up its workflows. -/
  | loaded (found : Except TriggerError Match)
  /-- An action was begun for an event, by the errand of a trigger at a place. -/
  | began (trigger place : Nat) (action : Action) (context : Value)
  /-- An errand was done, and its record was kept or not. -/
  | recorded (f : Finished)

namespace Event

def found? : Event → Option (Except TriggerError Match)
  | .loaded found => some found
  | _ => none

/-- The action that was begun by the errand of a trigger at a place, and the event. -/
def begun? (trigger place : Nat) : Event → Option (Action × Value)
  | .began t p a context => if t = trigger ∧ p = place then some (a, context) else none
  | _ => none

def recorded? : Event → Option Finished
  | .recorded f => some f
  | _ => none

end Event

/-- One more result. -/
def Progress.add (progress : Progress) (r : ActionResult) : Progress :=
  { progress with results := progress.results ++ [r] }

/-- The phase after an action was begun. -/
def Phase.of (progress : Progress) : Begun → Phase
  | .settled r => .ready (progress.add r)
  | .pending p => .calling progress p

namespace Errand

/-- One step.  Whether the time of an action has run out is for the surroundings to say. -/
def step (e : Errand) (expired : Bool) (s : Engine) : Errand × Option Event × Engine :=
  match e.phase, e.task.rest with
  | .fresh, _ => ({ e with phase := .ready ⟨s.clock, s.ticks, []⟩ }, none, s)
  | .ready progress, a :: rest =>
    let (b, s) := s.begin a e.task.context ⟨e.task.definition.id, progress.results.length⟩
    ({ task := { e.task with rest }, phase := .of progress b },
      some (.began e.task.trigger e.task.place a e.task.context), s)
  | .ready progress, [] =>
    let (f, s) := e.task.conclude progress s
    ({ e with phase := .finished f }, some (.recorded f), s)
  | .calling progress p, _ =>
    let (r, s) := s.finish p expired
    ({ e with phase := .ready (progress.add r) }, none, s)
  | .finished _, _ => (e, none, s)

/-- What an errand has come to, if it is done. -/
def finished? (e : Errand) : Option Finished :=
  match e.phase with
  | .finished f => some f
  | _ => none

end Errand

/-! ## Systems -/

/-- The tasks of the trigger of a number, by what it found. -/
def Engine.tasksAt (trigger : Nat) : Except TriggerError Match → List Task
  | .ok m => m.tasks trigger
  | .error _ => []

/-- An engine at which triggers and callers of the store arrive. -/
structure System where
  engine : Engine
  callers : List Caller
  errands : List Errand
  history : List Event

/-- Whose step it is. -/
inductive Move where
  /-- A trigger arrives and looks up its workflows. -/
  | trigger (eventType context : Value)
  /-- The errand of a number makes a step. -/
  | errand (i : Nat) (expired : Bool)
  /-- The caller of a number makes a step. -/
  | caller (i : Nat)
  /-- The surroundings become other ones. -/
  | pass (w : Surroundings)

def Move.isTrigger : Move → Bool
  | .trigger .. => true
  | _ => false

namespace System

/-- An engine with callers before any step. -/
def opening (s : Engine) (callers : List Caller) : System :=
  { engine := s, callers, errands := [], history := [] }

/-- What each trigger has found. -/
def found (s : System) : List (Except TriggerError Match) := s.history.filterMap Event.found?

/-- The actions that the errand of a trigger at a place has begun, with the events. -/
def begun (s : System) (trigger place : Nat) : List (Action × Value) :=
  s.history.filterMap (Event.begun? trigger place)

/-- The executions that are done. -/
def recorded (s : System) : List Finished := s.history.filterMap Event.recorded?

/-- The executions of a trigger that are done. -/
def recordedBy (s : System) (trigger : Nat) : List Finished :=
  s.recorded.filter fun f => f.trigger == trigger

/-- Whether all errands are done. -/
def isDone (s : System) : Bool := s.errands.all fun e => e.finished?.isSome

/-- One step. -/
def move (s : System) : Move → System
  | .trigger v context =>
    let found := s.engine.lookUp v context
    { s with
      errands := s.errands ++ (Engine.tasksAt s.found.length found).map (⟨·, .fresh⟩)
      history := s.history ++ [.loaded found] }
  | .errand i expired =>
    match s.errands[i]? with
    | some e =>
      { s with
        engine := (e.step expired s.engine).2.2
        errands := s.errands.set i (e.step expired s.engine).1
        history := s.history ++ (e.step expired s.engine).2.1.toList }
    | none => s
  | .caller i =>
    let shop := Callers.turn ⟨s.engine.repository, s.callers⟩ i
    { s with engine := { s.engine with repository := shop.repository }, callers := shop.callers }
  | .pass w => { s with engine := s.engine.amid w }

/-- Steps in an order. -/
def run (s : System) (moves : List Move) : System := moves.foldl move s

theorem run_append (s : System) (earlier later : List Move) :
    s.run (earlier ++ later) = (s.run earlier).run later :=
  List.foldl_append

end System

/-! ## What a step of an errand does -/

/-- An execution of a task: one result for each action, in order. -/
structure Task.Performs (t : Task) (f : Finished) : Prop where
  trigger : f.trigger = t.trigger
  place : f.place = t.place
  workflowId : f.record.workflowId = t.definition.id
  eventType : f.record.eventType = t.eventType
  status : f.record.status = .ofResults f.record.results
  results : List.Forall₂ Action.ReportedBy t.definition.actions f.record.results

namespace Errand

/-- An errand has settled the actions that it has begun, up to the one for which it waits. -/
def Agrees (e : Errand) (done : List Action) : Prop :=
  match e.phase with
  | .fresh => done = []
  | .ready progress => List.Forall₂ Action.ReportedBy done progress.results
  | .calling progress p => ∃ before a, done = before ++ [a] ∧ a.type = .text p.type.name ∧
      List.Forall₂ Action.ReportedBy before progress.results
  | .finished f => e.task.rest = [] ∧ e.task.Performs f

/-- What an errand has begun according to a history are the first of its actions. -/
def Follows (e : Errand) (history : List Event) : Prop :=
  ∃ done, e.task.definition.actions = done ++ e.task.rest ∧ e.Agrees done ∧
    history.filterMap (Event.begun? e.task.trigger e.task.place) =
      done.map fun a => (a, e.task.context)

/-- The trigger and the place of an errand. -/
def seat (e : Errand) : Nat × Nat := (e.task.trigger, e.task.place)

/-- Where nothing is begun for an errand, it follows the history as before. -/
theorem Follows.append {e : Errand} {history events : List Event} (h : e.Follows history)
    (hnone : events.filterMap (Event.begun? e.task.trigger e.task.place) = []) :
    e.Follows (history ++ events) := by
  obtain ⟨done, hactions, hdone, hbegun⟩ := h
  exact ⟨done, hactions, hdone, by rw [List.filterMap_append, hnone, List.append_nil, hbegun]⟩

/-- What a step of an errand does. -/
structure Advances (e e' : Errand) (event : Option Event) (s s' : Engine) : Prop where
  ticket : e'.task.ticket = e.task.ticket
  follows : ∀ history, e.Follows history → e'.Follows (history ++ event.toList)
  /-- Nothing is begun for another errand. -/
  own : ∀ trigger place, (trigger, place) ≠ e.seat →
    event.toList.filterMap (Event.begun? trigger place) = []
  found : event.toList.filterMap Event.found? = []
  finished : e'.finished?.toList = e.finished?.toList ++ event.toList.filterMap Event.recorded?
  steady : s.Steady s'
  /-- Nothing is recorded, or one execution is. -/
  outcome : event.toList.filterMap Event.recorded? = [] ∧ s.Quiet s' ∨
    ∃ f, event.toList.filterMap Event.recorded? = [f] ∧ s.Concludes f s'

theorem Advances.seat_eq {e e' : Errand} {event : Option Event} {s s' : Engine}
    (h : e.Advances e' event s s') : e'.seat = e.seat := by
  have hseat := congrArg (fun t : Task => (t.trigger, t.place)) h.ticket
  exact hseat

variable {t : Task} {progress : Progress}

/-- A step of which nothing is told. -/
theorem Advances.untold {phase phase' : Phase} {s s' : Engine}
    (hagrees : ∀ done, Agrees ⟨t, phase⟩ done → Agrees ⟨t, phase'⟩ done)
    (hfinished : finished? ⟨t, phase'⟩ = finished? ⟨t, phase⟩) (hquiet : s.Quiet s') :
    Advances ⟨t, phase⟩ ⟨t, phase'⟩ none s s' where
  ticket := rfl
  follows history h := by
    obtain ⟨done, hactions, hdone, hbegun⟩ := h
    exact Follows.append ⟨done, hactions, hagrees done hdone, hbegun⟩ rfl
  own _ _ _ := rfl
  found := rfl
  finished := by simp [hfinished]
  steady := hquiet.toSteady
  outcome := .inl ⟨rfl, hquiet⟩

/-- An action is begun, and settled at once or waited for. -/
theorem advances_begin {a : Action} {rest : List Action} (hrest : t.rest = a :: rest) (s : Engine) :
    let b := s.begin a t.context ⟨t.definition.id, progress.results.length⟩
    Advances ⟨t, .ready progress⟩ ⟨{ t with rest }, .of progress b.1⟩
      (some (.began t.trigger t.place a t.context)) s b.2 := by
  intro b
  have hquiet := s.quiet_begin a t.context ⟨t.definition.id, progress.results.length⟩
  refine ⟨rfl, ?_, ?_, rfl, ?_, hquiet.toSteady, .inl ⟨rfl, hquiet⟩⟩
  · rintro history ⟨done, hactions, hdone, hbegun⟩
    refine ⟨done ++ [a], ?_, ?_, ?_⟩
    · simpa [hrest] using hactions
    · cases hbegin : b with
      | mk begun s' =>
        cases begun with
        | settled r =>
          exact List.rel_append hdone (.cons (Engine.reportedBy_of_begin hbegin) .nil)
        | pending p =>
          have hawaits : s.Awaits a t.context ⟨t.definition.id, progress.results.length⟩ p :=
            ⟨s, s', .refl s, hbegin⟩
          exact ⟨done, a, rfl, hawaits.type_eq, hdone⟩
    · simp only [List.filterMap_append, List.map_append]
      rw [hbegun]
      simp [Event.begun?]
  · intro trigger place hother
    have hne : ¬ (t.trigger = trigger ∧ t.place = place) := by
      rintro ⟨rfl, rfl⟩
      exact hother rfl
    simp [Event.begun?, hne]
  · cases b.1 <;> rfl

/-- All actions are settled, and the execution is recorded. -/
theorem advances_conclude (hrest : t.rest = []) (s : Engine) :
    Advances ⟨t, .ready progress⟩ ⟨t, .finished (t.conclude progress s).1⟩
      (some (.recorded (t.conclude progress s).1)) s (t.conclude progress s).2 := by
  have hconcludes := t.concludes_conclude progress s
  obtain ⟨htrigger, hplace, hrecord⟩ := t.conclude_fst progress s
  refine ⟨rfl, ?_, fun _ _ _ => rfl, rfl, rfl, hconcludes.steady, .inr ⟨_, rfl, hconcludes⟩⟩
  · rintro history ⟨done, hactions, hdone, hbegun⟩
    refine ⟨done, hactions, ⟨hrest, htrigger, hplace, ?_, ?_, ?_, ?_⟩, ?_⟩
    · rw [hrecord, Task.recordOf]
    · rw [hrecord, Task.recordOf]
    · rw [hrecord, Task.recordOf]
    · have hall : t.definition.actions = done := by simpa [hrest] using hactions
      rw [hrecord, hall]
      exact hdone
    · simpa [List.filterMap_cons, Event.begun?] using hbegun

/-- What a step of an errand does. -/
theorem advances_step (e : Errand) (expired : Bool) (s : Engine) :
    e.Advances (e.step expired s).1 (e.step expired s).2.1 s (e.step expired s).2.2 := by
  obtain ⟨t, phase⟩ := e
  cases phase with
  | fresh =>
    refine .untold ?_ rfl (.refl s)
    rintro done rfl
    exact .nil
  | ready progress =>
    cases hrest : t.rest with
    | nil =>
      simp only [step, hrest]
      exact advances_conclude hrest s
    | cons a rest =>
      simp only [step, hrest]
      exact advances_begin hrest s
  | calling progress p =>
    refine .untold ?_ rfl (s.quiet_finish p expired)
    rintro done ⟨before, a, rfl, htype, hbefore⟩
    exact List.rel_append hbefore (.cons (s.reportedBy_finish htype expired) .nil)
  | finished f => exact .untold (fun _ h => h) rfl (.refl s)

end Errand

/-- There is no errand of the number, or it makes a step. -/
theorem System.move_errand_cases (s : System) (i : Nat) (expired : Bool) :
    s.move (.errand i expired) = s ∨ ∃ e e' event s', s.errands[i]? = some e ∧
      e.Advances e' event s.engine s' ∧ s.move (.errand i expired) =
        ⟨s', s.callers, s.errands.set i e', s.history ++ event.toList⟩ := by
  cases he : s.errands[i]? with
  | none =>
    left
    simp only [move, he]
  | some e =>
    refine .inr ⟨e, _, _, _, rfl, e.advances_step expired s.engine, ?_⟩
    simp only [move, he]

end Automation
