import Automation.Proofs.Action.Steps
import Automation.Proofs.Execution.Rows
import Automation.Trigger.Task

/-!
# What a task does

A task carries out the actions of its workflow.  Its *ticket* is the task as it was when it came,
and stays the same.  `Engine.Yields` says what a single action can come to, with any turns of other
tasks between its two steps, and `Engine.CarriedOut` what the actions of a workflow come to, one
after the other.

A task is *sound* if what it has done so far is what its actions come to, up to the one that it
waits for (`Task.Sound`).  A turn of a sound task leaves it sound, or finishes it, and then all
actions are carried out and the execution is recorded or not (`Engine.Concludes`).  These are all
the ends that a turn has (`Task.Leads`, `leads_start`, `leads_resume`).
-/

namespace Automation

/-! ## Recording -/

namespace Engine

theorem identifier_injective {n m : Nat} (h : identifier n = identifier m) : n = m := by
  have hvalue : ∀ k : Nat, Nat.ofDigitChars 10 ((identifier k).toList.drop 2) 0 = k := by
    intro k
    simp [identifier, Timestamp.padded, Nat.ofDigitChars_append, Nat.toString_eq_repr]
  rw [← hvalue n, h, hvalue]

/-- An identifier that was issued after the first `low` and among the first `high`. -/
def Issued (low high : Nat) (id : String) : Prop := ∃ n, low < n ∧ n ≤ high ∧ id = identifier n

theorem issued_next (n : Nat) : Issued n (n + 1) (identifier (n + 1)) :=
  ⟨n + 1, Nat.lt_succ_self n, le_rfl, rfl⟩

theorem Issued.mono {low low' high high' : Nat} {id : String} (h : Issued low high id)
    (hlow : low' ≤ low) (hhigh : high ≤ high') : Issued low' high' id := by
  obtain ⟨n, hn, hle, hid⟩ := h
  exact ⟨n, hlow.trans_lt hn, hle.trans hhigh, hid⟩

/-- No identifier is issued twice. -/
theorem Issued.ne {low high low' high' : Nat} {id id' : String} (h : Issued low high id)
    (h' : Issued low' high' id') (hle : high ≤ low') : id ≠ id' := by
  obtain ⟨n, -, hn, rfl⟩ := h
  obtain ⟨k, hk, -, rfl⟩ := h'
  intro hsame
  have hnk := identifier_injective hsame
  omega

/-- A record that can be kept: its recording does not fail, the backend has a form for it, and its
identifier is not taken where that matters. -/
structure Recordable (s : Engine) (r : ExecutionRecord) : Prop where
  available : s.unrecordable? r.workflowId = none
  form : s.log.backend.refusal? r = none
  free : s.log.backend = .database → ∀ q ∈ s.log.records, q.id ≠ r.id

/-- The log with a record at its end. -/
def withRecord (s : Engine) (r : ExecutionRecord) : Engine :=
  { s with
    log := { s.log with records := s.log.records ++ [s.log.backend.storedRecord r] } }

/-- A record is appended to the log if it can be kept, and the recording fails otherwise. -/
theorem record_cases (s : Engine) (r : ExecutionRecord) :
    (s.Recordable r ∧ s.record r = .ok (s.withRecord r)) ∨
      ¬ s.Recordable r ∧ ∃ f, s.record r = .error f ∧
        ∀ g, s.unrecordable? r.workflowId = some g → f = g := by
  rw [record]
  cases havailable : s.unrecordable? r.workflowId with
  | some f =>
    refine .inr ⟨fun h => ?_, f, rfl, fun g hg => Option.some.inj hg⟩
    cases havailable.symm.trans h.available
  | none =>
    cases hform : s.log.backend.refusal? r with
    | some f =>
      refine .inr ⟨fun h => ?_, .fault f, by simp [Log.append_eq, hform], nofun⟩
      cases hform.symm.trans h.form
    | none =>
      by_cases htaken : s.log.backend = .database ∧ s.log.records.any (·.id == r.id) = true
      · refine .inr ⟨fun h => ?_, .fault ⟨.integrity, []⟩, ?_, nofun⟩
        · obtain ⟨q, hq, hid⟩ := List.any_eq_true.1 htaken.2
          exact h.free htaken.1 q hq (by simpa using hid)
        · simp only [Log.append_eq, hform, Bool.and_eq_true, decide_eq_true_eq, if_pos htaken]
      · refine .inl ⟨⟨havailable, hform, ?_⟩, ?_⟩
        · intro hdatabase q hq hid
          exact htaken ⟨hdatabase, List.any_eq_true.2 ⟨q, hq, by simpa using hid⟩⟩
        · simp only [Log.append_eq, hform, Bool.and_eq_true, decide_eq_true_eq, if_neg htaken,
            withRecord]

theorem Quiet.recordable_iff {s s' : Engine} (h : s.Quiet s') {r : ExecutionRecord} :
    s'.Recordable r ↔ s.Recordable r := by
  constructor
  · rintro ⟨available, form, free⟩
    rw [h.unrecordable?_eq] at available
    rw [h.log] at form free
    exact ⟨available, form, free⟩
  · rintro ⟨available, form, free⟩
    refine ⟨?_, ?_, ?_⟩
    · rw [h.unrecordable?_eq, available]
    · rw [h.log, form]
    · rwa [h.log]

/-- The log after an execution, and the fault that the recording left. -/
inductive Recorded (s : Engine) (f : Finished) : Log → Prop where
  | kept (recordable : s.Recordable f.record) (fault : f.fault = none) :
      Recorded s f
        { s.log with records := s.log.records ++ [s.log.backend.storedRecord f.record] }
  | lost {failure : Failure} (refused : ¬ s.Recordable f.record)
      (fault : f.fault = some ("failed to record execution: " ++ failure.text))
      (cause : ∀ g, s.unrecordable? f.record.workflowId = some g → failure = g) :
      Recorded s f s.log

/-- An execution is over, and a fresh identifier was issued for its record. -/
structure Concludes (s : Engine) (f : Finished) (s' : Engine) : Prop where
  steady : s.Steady s'
  id : Issued s.issued s'.issued f.record.id
  recorded : s.Recorded f s'.log

theorem Concludes.of_quiet {s s' s'' : Engine} {f : Finished} (h : s.Quiet s')
    (h' : s'.Concludes f s'') : s.Concludes f s'' := by
  refine ⟨h.toSteady.trans h'.steady, h'.id.mono h.issued le_rfl, ?_⟩
  have hrecorded := h'.recorded
  generalize s''.log = log at hrecorded
  cases hrecorded with
  | kept recordable fault =>
    rw [h.log]
    exact .kept (h.recordable_iff.1 recordable) fault
  | lost refused fault cause =>
    rw [h.log]
    refine .lost (fun hr => refused (h.recordable_iff.2 hr)) fault fun g hg => cause g ?_
    rw [h.unrecordable?_eq, hg]

end Engine

/-! ## Actions carried out -/

/-- A result of an action is of its kind, and a success exactly if its error is null. -/
structure Action.ReportedBy (a : Action) (r : ActionResult) : Prop where
  type : r.actionType = .text a.type.display
  success : r.success = true ↔ r.error = .null

namespace Engine

/-- An action made a call, in an engine that is steady. -/
def Awaits (s₀ : Engine) (a : Action) (context : Value) (place : Place) (p : Pending) : Prop :=
  ∃ s s', s₀.Steady s ∧ s.begin a context place = (.pending p, s')

/-- What an action can come to while other tasks take their turns. -/
inductive Yields (s₀ : Engine) (a : Action) (context : Value) (place : Place) :
    ActionResult → Prop where
  | settled {s s' : Engine} {r : ActionResult} (steady : s₀.Steady s)
      (h : s.begin a context place = (.settled r, s')) : Yields s₀ a context place r
  /-- It is settled by the reply to its call, or because there was none in time. -/
  | finished {s : Engine} {p : Pending} (awaits : s₀.Awaits a context place p)
      (steady : s₀.Steady s) :
      Yields s₀ a context place (s.finish p (s₀.runsOut p.behaviour)).1

/-- The results of actions that were carried out one after the other. -/
inductive CarriedOut (s₀ : Engine) (context : Value) (workflowId : String) :
    List Action → List ActionResult → Prop where
  | nil : CarriedOut s₀ context workflowId [] []
  /-- One more is carried out, at the place after the others. -/
  | snoc {as : List Action} {rs : List ActionResult} {a : Action} {r : ActionResult}
      (before : CarriedOut s₀ context workflowId as rs)
      (last : s₀.Yields a context ⟨workflowId, rs.length⟩ r) :
      CarriedOut s₀ context workflowId (as ++ [a]) (rs ++ [r])

theorem Steady.runsOut_eq {s s' : Engine} (h : s.Steady s') (b : Behaviour) :
    s'.runsOut b = s.runsOut b := by
  simp only [runsOut, h.limits]

/-- The call that an action waits for is one of its kind. -/
theorem Awaits.type_eq {s₀ : Engine} {a : Action} {context : Value} {place : Place} {p : Pending}
    (h : s₀.Awaits a context place p) : a.type = .text p.type.name := by
  obtain ⟨s, s', -, hbegin⟩ := h
  rcases s.begin_cases a context place with ⟨text, -, -, hcase⟩ | ⟨t, wanted, made, hasks, hcase⟩
  · cases hcase.symm.trans hbegin
  · cases hcase.symm.trans hbegin
    exact hasks.type

theorem reportedBy_of_begin {s s' : Engine} {a : Action} {context : Value} {place : Place}
    {r : ActionResult} (h : s.begin a context place = (.settled r, s')) : a.ReportedBy r := by
  rcases s.begin_cases a context place with ⟨text, -, -, hcase⟩ | ⟨t, wanted, made, -, hcase⟩
  · cases hcase.symm.trans h
    exact ⟨rfl, s.success_settle _ _ _⟩
  · cases hcase.symm.trans h

theorem reportedBy_finish (s : Engine) {a : Action} {p : Pending} (ha : a.type = .text p.type.name)
    (expired : Bool) : a.ReportedBy (s.finish p expired).1 := by
  obtain ⟨s', -, hfinish⟩ := s.finish_settles p expired
  rw [hfinish]
  refine ⟨?_, s'.success_settle _ _ _⟩
  rw [ha]
  rfl

theorem Yields.reportedBy {s₀ : Engine} {a : Action} {context : Value} {place : Place}
    {r : ActionResult} (h : s₀.Yields a context place r) : a.ReportedBy r := by
  cases h with
  | settled steady hbegin => exact reportedBy_of_begin hbegin
  | @finished s p awaits steady => exact s.reportedBy_finish awaits.type_eq _

/-- The results stand in the order of the actions, one for each. -/
theorem CarriedOut.forall₂ {s₀ : Engine} {context : Value} {workflowId : String}
    {as : List Action} {rs : List ActionResult} (h : s₀.CarriedOut context workflowId as rs) :
    List.Forall₂ (fun a r => ∃ position, s₀.Yields a context ⟨workflowId, position⟩ r) as rs := by
  induction h with
  | nil => exact .nil
  | snoc _ last ih => exact List.rel_append ih (.cons ⟨_, last⟩ .nil)

end Engine

/-! ## Tasks -/

namespace Task

/-- The task as it was when it came. -/
def ticket (t : Task) : Task := { t with rest := t.definition.actions, stage := .fresh }

theorem trigger_of_ticket {t t' : Task} (h : t'.ticket = t.ticket) : t'.trigger = t.trigger := by
  have htrigger := congrArg trigger h
  exact htrigger

theorem place_of_ticket {t t' : Task} (h : t'.ticket = t.ticket) : t'.place = t.place := by
  have hplace := congrArg place h
  exact hplace

/-- The task carried out the actions before the one for which it waits. -/
def Underway (s₀ : Engine) (t : Task) (progress : Progress) (p : Pending) (expired : Bool) : Prop :=
  progress.triggeredAt = s₀.clock ∧ s₀.runsOut p.behaviour = expired ∧
    ∃ done a, t.definition.actions = done ++ a :: t.rest ∧
      s₀.CarriedOut t.context t.definition.id done progress.results ∧
      s₀.Awaits a t.context ⟨t.definition.id, progress.results.length⟩ p

/-- A task that did what it had to do so far. -/
def Sound (s₀ : Engine) (t : Task) : Prop :=
  match t.stage with
  | .fresh => t.rest = t.definition.actions
  | .admitted => t.rest = t.definition.actions
  | .calling progress p _ => t.Underway s₀ progress p false
  | .expired progress p => t.Underway s₀ progress p true

/-- A task that is done: all its actions are carried out, in order. -/
structure Completes (s₀ : Engine) (t : Task) (f : Finished) : Prop where
  trigger : f.trigger = t.trigger
  place : f.place = t.place
  workflowId : f.record.workflowId = t.definition.id
  eventType : f.record.eventType = t.eventType
  triggeredAt : f.record.triggeredAt = s₀.clock
  status : f.record.status = .ofResults f.record.results
  results : s₀.CarriedOut t.context t.definition.id t.definition.actions f.record.results

theorem Completes.ticket {s₀ : Engine} {t : Task} {f : Finished} (h : t.Completes s₀ f) :
    t.ticket.Completes s₀ f :=
  ⟨h.trigger, h.place, h.workflowId, h.eventType, h.triggeredAt, h.status, h.results⟩

/-- What a turn of a task leads to. -/
inductive Leads (s₀ : Engine) (t : Task) (s : Engine) : Turn × Engine → Prop where
  | suspended {t' : Task} {s' : Engine} (ticket : t'.ticket = t.ticket) (sound : t'.Sound s₀)
      (slot : t'.hasSlot = true) (quiet : s.Quiet s') : Leads s₀ t s (.suspended t', s')
  | stuck {t' : Task} {s' : Engine} (ticket : t'.ticket = t.ticket) (sound : t'.Sound s₀)
      (slot : t'.hasSlot = true) (quiet : s.Quiet s') : Leads s₀ t s (.stuck t', s')
  | finished {f : Finished} {s' : Engine} (completes : t.Completes s₀ f)
      (concludes : s.Concludes f s') : Leads s₀ t s (.finished f, s')

theorem Leads.of_quiet {s₀ s s' : Engine} {t : Task} {result : Turn × Engine} (h : s.Quiet s')
    (h' : t.Leads s₀ s' result) : t.Leads s₀ s result := by
  cases h' with
  | suspended ticket sound slot quiet => exact .suspended ticket sound slot (h.trans quiet)
  | stuck ticket sound slot quiet => exact .stuck ticket sound slot (h.trans quiet)
  | finished completes concludes => exact .finished completes (concludes.of_quiet h)

/-- The record of a task whose actions are all carried out. -/
def recordOf (t : Task) (progress : Progress) (s : Engine) : ExecutionRecord where
  id := s.issue.1
  workflowId := t.definition.id
  eventType := t.eventType
  triggeredAt := progress.triggeredAt
  status := .ofResults progress.results
  results := progress.results
  totalDuration := .double (progress.start.elapsed s.ticks)

theorem conclude_of_ok {t : Task} {progress : Progress} {s s' : Engine}
    (h : s.issue.2.record (t.recordOf progress s) = .ok s') :
    t.conclude progress s = (⟨t.trigger, t.place, t.recordOf progress s, none⟩, s') := by
  simp only [recordOf, Engine.issue] at h
  simp only [conclude, recordOf, Engine.issue, h]

theorem conclude_of_error {t : Task} {progress : Progress} {s : Engine} {failure : Failure}
    (h : s.issue.2.record (t.recordOf progress s) = .error failure) :
    t.conclude progress s = (⟨t.trigger, t.place, t.recordOf progress s,
      some ("failed to record execution: " ++ failure.text)⟩, s.issue.2) := by
  simp only [recordOf, Engine.issue] at h
  simp only [conclude, recordOf, Engine.issue, h]

/-- The execution that concludes a task. -/
theorem conclude_fst (t : Task) (progress : Progress) (s : Engine) :
    (t.conclude progress s).1.trigger = t.trigger ∧ (t.conclude progress s).1.place = t.place ∧
      (t.conclude progress s).1.record = t.recordOf progress s := by
  rcases s.issue.2.record_cases (t.recordOf progress s) with
    ⟨-, hrecord⟩ | ⟨-, failure, hrecord, -⟩
  · rw [conclude_of_ok hrecord]
    exact ⟨rfl, rfl, rfl⟩
  · rw [conclude_of_error hrecord]
    exact ⟨rfl, rfl, rfl⟩

theorem concludes_conclude (t : Task) (progress : Progress) (s : Engine) :
    s.Concludes (t.conclude progress s).1 (t.conclude progress s).2 := by
  have hissue : s.Quiet s.issue.2 :=
    ⟨⟨rfl, rfl, rfl, rfl, rfl, rfl, rfl, rfl, Nat.le_succ _⟩, rfl⟩
  have hid : Engine.Issued s.issued s.issue.2.issued (t.recordOf progress s).id :=
    Engine.issued_next s.issued
  rcases s.issue.2.record_cases (t.recordOf progress s) with
    ⟨hkept, hrecord⟩ | ⟨hlost, failure, hrecord, hcause⟩
  · have hsteady : s.Steady (s.issue.2.withRecord (t.recordOf progress s)) :=
      hissue.toSteady.trans ⟨rfl, rfl, rfl, rfl, rfl, rfl, rfl, rfl, le_rfl⟩
    rw [conclude_of_ok hrecord]
    exact ⟨hsteady, hid, .kept (hissue.recordable_iff.1 hkept) rfl⟩
  · rw [conclude_of_error hrecord]
    exact ⟨hissue.toSteady, hid, .lost (fun h => hlost (hissue.recordable_iff.2 h)) rfl hcause⟩

/-- A task whose actions are all carried out is done. -/
theorem leads_conclude {s₀ s : Engine} {t : Task} {progress : Progress}
    (htime : progress.triggeredAt = s₀.clock)
    (hdone : s₀.CarriedOut t.context t.definition.id t.definition.actions progress.results) :
    t.Leads s₀ s (.finished (t.conclude progress s).1, (t.conclude progress s).2) := by
  obtain ⟨htrigger, hplace, hrecord⟩ := t.conclude_fst progress s
  refine .finished ⟨htrigger, hplace, ?_, ?_, ?_, ?_, ?_⟩ (t.concludes_conclude progress s)
  · rw [hrecord, recordOf]
  · rw [hrecord, recordOf]
  · rw [hrecord, recordOf, htime]
  · rw [hrecord, recordOf]
  · rw [hrecord]
    exact hdone

/-- A task that waits for a reply waits for as long as the collaborator takes. -/
theorem leads_wait {s₀ s : Engine} {t : Task} {progress : Progress} {p : Pending} {a : Action}
    {done rest : List Action} (hsteady : s₀.Steady s) (htime : progress.triggeredAt = s₀.clock)
    (hactions : t.definition.actions = done ++ a :: rest)
    (hdone : s₀.CarriedOut t.context t.definition.id done progress.results)
    (hawaits : s₀.Awaits a t.context ⟨t.definition.id, progress.results.length⟩ p) :
    t.Leads s₀ s (t.wait progress p rest s, s) := by
  have hruns := hsteady.runsOut_eq p.behaviour
  have hunderway : ∀ {stage : Stage} {expired : Bool}, s₀.runsOut p.behaviour = expired →
      ({ t with rest, stage } : Task).Underway s₀ progress p expired := by
    intro stage expired hexpired
    exact ⟨htime, hexpired, done, a, hactions, hdone, hawaits⟩
  simp only [wait]
  split
  · rename_i hstuck
    have hexpired : s₀.runsOut p.behaviour = true := by
      simp only [Bool.and_eq_true] at hstuck
      simp [Engine.runsOut, hstuck.1]
    exact .stuck rfl (hunderway hexpired) rfl (.refl s)
  · split
    · rename_i hexpired
      rw [hruns] at hexpired
      exact .suspended rfl (hunderway hexpired) rfl (.refl s)
    · rename_i hintime
      rw [hruns, Bool.not_eq_true] at hintime
      exact .suspended rfl (hunderway hintime) rfl (.refl s)

/-- A sound task that is carried on is left sound or is done. -/
theorem leads_carryOn {s₀ : Engine} (t : Task) (actions : List Action) :
    ∀ (done : List Action) (progress : Progress) (s : Engine), s₀.Steady s →
      progress.triggeredAt = s₀.clock → t.definition.actions = done ++ actions →
      s₀.CarriedOut t.context t.definition.id done progress.results →
      t.Leads s₀ s (t.carryOn progress actions s) := by
  induction actions with
  | nil =>
    intro done progress s _ htime hactions hdone
    rw [List.append_nil] at hactions
    exact leads_conclude htime (hactions ▸ hdone)
  | cons a rest ih =>
    intro done progress s hsteady htime hactions hdone
    have hquiet := s.quiet_begin a t.context ⟨t.definition.id, progress.results.length⟩
    have hrest : t.definition.actions = (done ++ [a]) ++ rest := by simp [hactions]
    rw [carryOn]
    split
    · rename_i r s' hbegin
      rw [hbegin] at hquiet
      have hleads := ih (done ++ [a]) { progress with results := progress.results ++ [r] } s'
        (hsteady.trans hquiet.toSteady) htime hrest (hdone.snoc (.settled hsteady hbegin))
      exact hleads.of_quiet hquiet
    · rename_i p s' hbegin
      rw [hbegin] at hquiet
      have hsteady' : s₀.Steady s' := hsteady.trans hquiet.toSteady
      have hawaits : s₀.Awaits a t.context ⟨t.definition.id, progress.results.length⟩ p :=
        ⟨s, s', hsteady, hbegin⟩
      split
      · exact (leads_wait hsteady' htime hactions hdone hawaits).of_quiet hquiet
      · rename_i hsuspends
        have hfinish := s'.quiet_finish p false
        have hintime : s₀.runsOut p.behaviour = false := by
          simp only [Behaviour.suspends, Bool.or_eq_true, not_or, Bool.not_eq_true] at hsuspends
          simp [Engine.runsOut, Behaviour.suspends, hsuspends]
        have hresult := Engine.Yields.finished hawaits hsteady'
        rw [hintime] at hresult
        have hleads := ih (done ++ [a])
          { progress with results := progress.results ++ [(s'.finish p false).1] }
          (s'.finish p false).2 (hsteady'.trans hfinish.toSteady) htime hrest (hdone.snoc hresult)
        exact hleads.of_quiet (hquiet.trans hfinish)

theorem leads_start {s₀ s : Engine} {t : Task} (hsteady : s₀.Steady s)
    (hfresh : t.rest = t.definition.actions) : t.Leads s₀ s (t.start s) :=
  leads_carryOn t t.rest [] ⟨s.clock, s.ticks, []⟩ s hsteady hsteady.clock hfresh.symm .nil

theorem leads_resume {s₀ s : Engine} {t : Task} {progress : Progress} {p : Pending}
    {expired : Bool} (hsteady : s₀.Steady s) (h : t.Underway s₀ progress p expired) :
    t.Leads s₀ s (t.resume progress p expired s) := by
  obtain ⟨htime, rfl, done, a, hactions, hdone, hawaits⟩ := h
  have hquiet := s.quiet_finish p (s₀.runsOut p.behaviour)
  have hrest : t.definition.actions = (done ++ [a]) ++ t.rest := by simp [hactions]
  have hleads := leads_carryOn t t.rest (done ++ [a])
    { progress with results := progress.results ++ [(s.finish p (s₀.runsOut p.behaviour)).1] }
    (s.finish p (s₀.runsOut p.behaviour)).2 (hsteady.trans hquiet.toSteady) htime hrest
    (hdone.snoc (.finished hawaits hsteady))
  exact hleads.of_quiet hquiet

end Task

end Automation
