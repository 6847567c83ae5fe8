import Automation.Trigger.Task

/-!
# The schedule

Tasks take turns.  The tasks that are ready stand in a queue; the first one has its turn and is
carried on until it waits (`Schedule.take`).  A task that lets others go first stands at the end of
the queue again.  One whose collaborator never comes back stands aside until nothing else is left
to do, and then its time has run out.

One trigger carries out a limited number of workflows at a time.  A fresh task starts if fewer
tasks of its trigger have a slot, and waits otherwise.  A task that is done gives its slot to the
one of its trigger that waited longest.  Slots are not counted: a slot is free when few enough
tasks have one.

`Schedule.step?` is one turn, `Schedule.run` carries out all turns.  There is an end to them,
since every turn leaves fewer actions, or the same actions closer to their end.
-/

namespace Automation

/-- The tasks of some triggers and the engine they work on. -/
structure Schedule where
  /-- The engine. -/
  engine : Engine
  /-- The tasks whose turn comes, the next one first. -/
  ready : List Task
  /-- The tasks that stand aside, in the order in which they came. -/
  aside : List Task := []
  /-- The tasks that wait for a slot, in the order in which they came. -/
  waiting : List Task := []
  /-- The workflows that were carried out, in the order in which they were finished. -/
  finished : List Finished := []

namespace Schedule

/-- The number of tasks of a trigger that have a slot. -/
def running (s : Schedule) (trigger : Nat) : Nat :=
  (s.ready ++ s.aside).countP fun t => t.trigger == trigger && t.hasSlot

/-- The first task of a trigger in a list, and the others. -/
def removeFirst? (trigger : Nat) : List Task → Option (Task × List Task)
  | [] => none
  | t :: rest =>
    if t.trigger = trigger then some (t, rest)
    else (removeFirst? trigger rest).map fun e => (e.1, t :: e.2)

/-- A slot of a trigger given to the task that waited longest, if one waits. -/
def handSlot (s : Schedule) (trigger : Nat) : Schedule :=
  match removeFirst? trigger s.waiting with
  | some (t, waiting) => { s with ready := s.ready ++ [{ t with stage := .admitted }], waiting }
  | none => s

/-- The schedule after the turn of a task. -/
def place (s : Schedule) (turn : Turn) (engine : Engine) : Schedule :=
  match turn with
  | .suspended t => { s with engine, ready := s.ready ++ [t] }
  | .stuck t => { s with engine, aside := s.aside ++ [t] }
  | .finished f => { s with engine, finished := s.finished ++ [f] }.handSlot f.trigger

/-- The turn of a task that stands in the queue no more. -/
def take (s : Schedule) (t : Task) : Schedule :=
  match t.stage with
  | .fresh =>
    if s.running t.trigger < s.engine.slots then
      s.place (t.start s.engine).1 (t.start s.engine).2
    else { s with waiting := s.waiting ++ [t] }
  | .admitted => s.place (t.start s.engine).1 (t.start s.engine).2
  | .calling progress pending (pauses + 1) =>
    { s with ready := s.ready ++ [{ t with stage := .calling progress pending pauses }] }
  | .calling progress pending 0 =>
    s.place (t.resume progress pending false s.engine).1
      (t.resume progress pending false s.engine).2
  | .expired progress pending =>
    s.place (t.resume progress pending true s.engine).1 (t.resume progress pending true s.engine).2

/-- One turn; nothing if none is left. -/
def step? (s : Schedule) : Option Schedule :=
  match s.ready, s.aside with
  | t :: ready, _ => some ({ s with ready }.take t)
  | [], [] => none
  | [], aside => some { s with ready := aside, aside := [] }

/-! ## Every turn leads on -/

/-- A quantity of tasks, summed. -/
def total (quantity : Task → Nat) : List Task → Nat
  | [] => 0
  | t :: ts => quantity t + total quantity ts

@[simp] theorem total_nil (quantity : Task → Nat) : total quantity [] = 0 := rfl

@[simp] theorem total_cons (quantity : Task → Nat) (t : Task) (ts : List Task) :
    total quantity (t :: ts) = quantity t + total quantity ts := rfl

@[simp] theorem total_append (quantity : Task → Nat) (ts us : List Task) :
    total quantity (ts ++ us) = total quantity ts + total quantity us := by
  induction ts with
  | nil => simp
  | cons t ts ih => simp [ih, Nat.add_assoc]

/-- The number of actions to come in tasks. -/
def actionsOf (ts : List Task) : Nat := total (fun t => t.rest.length) ts

/-- How far a task in the queue is from the end of its stage. -/
def distance (t : Task) : Nat :=
  match t.stage with
  | .fresh => 3
  | .admitted => 1
  | .calling _ _ pauses => pauses + 1
  | .expired .. => 1

/-- The number of actions to come in all tasks. -/
def remaining (s : Schedule) : Nat :=
  actionsOf s.ready + actionsOf s.aside + actionsOf s.waiting

/-- How far the tasks are from the ends of their stages. -/
def pending (s : Schedule) : Nat :=
  total distance s.ready + total distance s.aside + 2 * s.waiting.length

/-- The quantity that every turn makes smaller, in lexicographic order: the actions to come, the
distances to the ends of stages, the tasks that stand aside. -/
def size (s : Schedule) : Nat × Nat × Nat := (s.remaining, s.pending, s.aside.length)

/-- The order in which turns lead on. -/
def Smaller : Schedule → Schedule → Prop :=
  InvImage (Prod.Lex (· < ·) (Prod.Lex (· < ·) (· < ·))) size

theorem smaller_wf : WellFounded Smaller :=
  InvImage.wf size (Prod.lex (Nat.lt_wfRel) (Prod.lex Nat.lt_wfRel Nat.lt_wfRel)).wf

theorem actionsOf_append (ts us : List Task) :
    actionsOf (ts ++ us) = actionsOf ts + actionsOf us := by
  simp [actionsOf]

theorem smaller_of_remaining {s u : Schedule} (h : s.remaining < u.remaining) : Smaller s u :=
  Prod.Lex.left _ _ h

theorem smaller_of_pending {s u : Schedule} (h : s.remaining = u.remaining)
    (hp : s.pending < u.pending) : Smaller s u := by
  unfold Smaller InvImage size
  rw [h]
  exact Prod.Lex.right _ (Prod.Lex.left _ _ hp)

theorem removeFirst?_sum (trigger : Nat) :
    ∀ {ts : List Task} {t : Task} {rest : List Task}, removeFirst? trigger ts = some (t, rest) →
      actionsOf ts = t.rest.length + actionsOf rest ∧ ts.length = rest.length + 1
  | [], _, _, h => by simp [removeFirst?] at h
  | u :: us, t, rest, h => by
    rw [removeFirst?] at h
    split at h
    · obtain ⟨rfl, rfl⟩ := h
      simp [actionsOf]
    · obtain ⟨⟨t', rest'⟩, hr, he⟩ := Option.map_eq_some_iff.1 h
      obtain ⟨rfl, rfl⟩ := he
      obtain ⟨h1, h2⟩ := removeFirst?_sum trigger hr
      simp [actionsOf] at h1 ⊢
      omega

/-- Giving a slot to a task that waits adds no action, and leads on if a task waits. -/
theorem handSlot_le (s : Schedule) (trigger : Nat) :
    (s.handSlot trigger).remaining = s.remaining ∧ (s.handSlot trigger).pending ≤ s.pending := by
  unfold handSlot
  split
  · rename_i t waiting h
    obtain ⟨h1, h2⟩ := removeFirst?_sum trigger h
    have hr : actionsOf [{ t with stage := Stage.admitted }] = t.rest.length := by simp [actionsOf]
    constructor
    · simp only [remaining, actionsOf_append, hr, h1]; omega
    · simp only [pending, total_append, total_cons, total_nil, distance, h2]
      omega
  · exact ⟨rfl, Nat.le_refl _⟩

/-- A turn at whose end the task is done, or has fewer actions than `n` to come, leads on from any
schedule with the task in the queue. -/
theorem place_smaller (s u : Schedule) (turn : Turn) (engine : Engine) (n : Nat)
    (hr : u.remaining = s.remaining + n) (hp : s.pending < u.pending)
    (h : turn.isFinished = true ∨ turn.remaining < n) : Smaller (s.place turn engine) u := by
  cases turn with
  | suspended t =>
    have h : t.rest.length < n := by simpa [Turn.isFinished, Turn.remaining] using h
    apply smaller_of_remaining
    simp only [place, remaining, actionsOf_append] at hr ⊢
    simp [actionsOf] at hr ⊢
    omega
  | stuck t =>
    have h : t.rest.length < n := by simpa [Turn.isFinished, Turn.remaining] using h
    apply smaller_of_remaining
    simp only [place, remaining, actionsOf_append] at hr ⊢
    simp [actionsOf] at hr ⊢
    omega
  | finished f =>
    obtain ⟨h1, h2⟩ := handSlot_le { s with engine, finished := s.finished ++ [f] } f.trigger
    have e1 : ({ s with engine, finished := s.finished ++ [f] } : Schedule).remaining
        = s.remaining := rfl
    have e2 : ({ s with engine, finished := s.finished ++ [f] } : Schedule).pending
        = s.pending := rfl
    rcases Nat.eq_zero_or_pos n with hn | hn
    · apply smaller_of_pending
      · show (handSlot _ _).remaining = _
        omega
      · show (handSlot _ _).pending < _
        omega
    · apply smaller_of_remaining
      show (handSlot _ _).remaining < _
      omega

theorem take_smaller (s : Schedule) (t : Task) :
    Smaller (s.take t) { s with ready := t :: s.ready } := by
  have hr : ({ s with ready := t :: s.ready } : Schedule).remaining
      = s.remaining + t.rest.length := by
    simp [remaining, actionsOf]; omega
  have hp : ({ s with ready := t :: s.ready } : Schedule).pending = s.pending + distance t := by
    simp [pending]; omega
  have hd : 0 < distance t := by
    unfold distance
    split <;> omega
  have hlt : s.pending < ({ s with ready := t :: s.ready } : Schedule).pending := by omega
  have hstart := t.remaining_carryOn t.rest ⟨s.engine.clock, s.engine.ticks, []⟩ s.engine
  unfold take
  split
  · rename_i hs
    split
    · exact place_smaller _ _ _ _ _ hr hlt hstart
    · apply smaller_of_pending
      · simp [remaining, actionsOf]; omega
      · simp [pending, distance, hs]; omega
  · exact place_smaller _ _ _ _ _ hr hlt hstart
  · rename_i progress p pauses hs
    apply smaller_of_pending
    · simp [remaining, actionsOf]; omega
    · simp [pending, distance, hs]; omega
  · rename_i progress p hs
    exact place_smaller _ _ _ _ _ hr hlt (t.remaining_carryOn t.rest _ _)
  · rename_i progress p hs
    exact place_smaller _ _ _ _ _ hr hlt (t.remaining_carryOn t.rest _ _)

theorem step?_smaller {s u : Schedule} (h : s.step? = some u) : Smaller u s := by
  unfold step? at h
  split at h
  · rename_i t ready hready
    obtain rfl := Option.some.inj h
    have := take_smaller { s with ready } t
    simpa [← hready] using this
  · simp at h
  · rename_i hready hne
    obtain rfl := Option.some.inj h
    unfold Smaller InvImage size
    have e1 : ({ s with ready := s.aside, aside := [] } : Schedule).remaining = s.remaining := by
      simp [remaining, hready, actionsOf]
    have e2 : ({ s with ready := s.aside, aside := [] } : Schedule).pending = s.pending := by
      simp [pending, hready]
    rw [e1, e2]
    refine Prod.Lex.right _ (Prod.Lex.right _ ?_)
    cases ha : s.aside with
    | nil => exact absurd ha (by simpa using hne)
    | cons t ts => simp

/-- All turns. -/
def run (s : Schedule) : Schedule :=
  match _h : s.step? with
  | none => s
  | some u => run u
termination_by smaller_wf.wrap s
decreasing_by exact step?_smaller _h

end Schedule

end Automation
