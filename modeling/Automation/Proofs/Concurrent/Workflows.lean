import Automation.Proofs.Concurrent.Timely
import Automation.Proofs.Trigger.Slots

/-!
# The workflows of a trigger

The schedule that carries out a trigger counts slots and keeps queues, and the gate of the trigger
counts permits and keeps none.  Still all that the schedule does is one of the orders of turns in
which errands can pass the gate (`Gate.carries_run`): as many of them are underway as have slots at
most, so that one that starts finds a permit.

So `workflows_interleaved` holds of the schedule too: never are more workflows underway than may be,
and the result does not depend on the order in which they are finished.
-/

namespace Automation

namespace Gate

variable {g : Gate}

/-! ## The schedule passes the gate -/

/-- A gate and a schedule have done the same and have the same to do, and there are as many permits
as slots. -/
structure Carries (g : Gate) (u : Schedule) : Prop where
  system : g.system.Carries u
  permits : g.permits + g.underway = u.engine.slots

variable {s₀ : Engine} {ts ready : List Task} {t : Task} {u u' : Schedule} {n : Nat}

theorem trigger_of_kept {s : Schedule} (hkept : Schedule.Kept s₀ ts s)
    (htriggers : ∀ t ∈ ts, t.trigger = n) :
    ∀ w ∈ s.ready ++ s.aside ++ s.waiting, w.trigger = n := by
  intro w hw
  obtain ⟨done, -, hperm⟩ := hkept.books.tickets
  exact htriggers w.ticket (hperm.mem_iff.1 (List.mem_append_right done (List.mem_map_of_mem hw)))

theorem isUnderway_errand (t : Task) (h : t.errand.isUnderway = true) : t.hasSlot = true := by
  cases hstage : t.stage <;> simp_all [Task.errand, Errand.isUnderway, Task.hasSlot]

/-- Errands that are underway are those of tasks that have slots. -/
theorem underway_le_running (hkept : Schedule.Kept s₀ ts { u with ready := t :: u.ready })
    (htriggers : ∀ t ∈ ts, t.trigger = n) (h : g.system.Carries { u with ready := t :: u.ready })
    (hfresh : t.errand.phase = .fresh) : g.underway ≤ u.running n := by
  have hopened : g.underway = g.system.opened.countP Errand.isUnderway := by
    rw [underway, System.opened, List.countP_filter]
    refine List.countP_congr fun e _ => ?_
    obtain ⟨t, phase⟩ := e
    cases phase <;> simp [Errand.isUnderway, Errand.finished?]
  have hfirst : t.errand.isUnderway = false := by simp [Errand.isUnderway, hfresh]
  have hwaiting : u.waiting.countP (fun w => w.errand.isUnderway) = 0 := by
    refine List.countP_eq_zero.2 fun w hw => ?_
    have hstage : w.stage = .fresh := hkept.fresh w hw
    simp [Task.errand, Errand.isUnderway, hstage]
  have hslots : (u.ready ++ u.aside).countP (fun w => w.errand.isUnderway) ≤ u.running n := by
    refine List.countP_mono_left fun w hw hunderway => ?_
    have hmem : w ∈ t :: u.ready ++ u.aside ++ u.waiting :=
      List.mem_append_left _ (List.mem_cons_of_mem t hw)
    rw [trigger_of_kept hkept htriggers w hmem, isUnderway_errand w hunderway]
    simp
  have hall : g.system.opened.countP Errand.isUnderway =
      ((t :: u.ready ++ u.aside ++ u.waiting).map Task.errand).countP Errand.isUnderway :=
    h.opened.countP_eq _
  rw [List.countP_map, List.countP_append, List.cons_append, List.countP_cons] at hall
  simp only [Function.comp_def, hfirst, hwaiting] at hall
  simpa [hopened, hall] using hslots

/-- An errand that has its turn has been started, or there is a permit for it. -/
theorem exists_permit (hkept : Schedule.Kept s₀ ts { u with ready := t :: u.ready })
    (hwithin : Schedule.WithinSlots { u with ready := t :: u.ready })
    (htriggers : ∀ t ∈ ts, t.trigger = n) (h : g.Carries { u with ready := t :: u.ready })
    (hfree : t.stage = .fresh → u.running t.trigger < u.engine.slots)
    (hfresh : t.errand.phase = .fresh) : 0 < g.permits := by
  have hunderway := underway_le_running hkept htriggers h.system hfresh
  have htrigger : t.trigger = n := trigger_of_kept hkept htriggers t (by simp)
  have hpermits : g.permits + g.underway = u.engine.slots := h.permits
  have hroom : u.running n < u.engine.slots := by
    cases hstage : t.stage with
    | fresh => exact htrigger ▸ hfree hstage
    | admitted =>
      have hbound := Schedule.room_of_hasSlot hwithin (by simp [Task.hasSlot, hstage]) n
      rwa [if_pos htrigger] at hbound
    | calling progress p pauses => simp [Task.errand, hstage] at hfresh
    | expired progress p => simp [Task.errand, hstage] at hfresh
  omega

/-- What the schedule does in a turn, the errands do in some timely turns. -/
theorem Carries.step (h : g.Carries u) (hkept : Schedule.Kept s₀ ts u) (hwithin : u.WithinSlots)
    (htriggers : ∀ t ∈ ts, t.trigger = n) (hstep : u.step? = some u') :
    ∃ turns, (g.run turns).Carries u' ∧ g.Timely turns := by
  have hslots : u'.engine.slots = u.engine.slots := by
    have hkept' := Schedule.kept_step hkept hstep
    rw [Schedule.slots_of_steady hkept'.books.steady, Schedule.slots_of_steady hkept.books.steady]
  have hpermits : ∀ turns, (g.run turns).permits + (g.run turns).underway = u'.engine.slots :=
    fun turns => (g.permits_run turns).trans (h.permits.trans hslots.symm)
  rcases System.step_cases h.system hstep with hsame | ⟨t, ready, hready, rfl⟩
  · exact ⟨[], ⟨hsame, hpermits []⟩, trivial⟩
  · have hu : u = { ({ u with ready } : Schedule) with ready := t :: ready } := by rw [← hready]
    rw [hu] at hkept hwithin h
    rcases System.carries_take hkept h.system with
      hsame | ⟨i, flags, hi, hfree, htimely, hcarries, -⟩
    · exact ⟨[], ⟨hsame, hpermits []⟩, trivial⟩
    · obtain ⟨hrun, hturns⟩ := run_steps flags hi (exists_permit hkept hwithin htriggers h hfree)
      exact ⟨_, ⟨hrun.symm ▸ hcarries, hpermits _⟩, hturns htimely⟩

/-- The schedule that carries out a trigger is one of the orders of turns in which its errands pass
the gate, with as many permits as there are slots. -/
theorem carries_run (s : Engine) (m : Match) :
    ∃ turns, let final := (opening s m s.slots).run turns
      final.system.isDone = true ∧ (opening s m s.slots).Timely turns ∧
        final.system.recorded = (Schedule.run { engine := s, ready := m.tasks 0 }).finished := by
  have hfresh : ∀ t ∈ m.tasks 0, t.ticket = t := m.ticket_tasks 0
  have htriggers : ∀ t ∈ m.tasks 0, t.trigger = 0 := fun t ht => (Match.mem_tasks ht).2.1
  have hstart : (opening s m s.slots).Carries { engine := s, ready := m.tasks 0 } := by
    refine ⟨⟨rfl, rfl, .of_eq ?_⟩, ?_⟩
    · rw [opened_opening, List.append_nil, List.append_nil]
      refine List.map_congr_left fun t ht => ?_
      rw [← hfresh t ht]
      rfl
    · have hpermits := permits_opening s m s.slots []
      rw [Int.toNat_natCast, Nat.max_eq_right s.slots_pos] at hpermits
      exact hpermits
  obtain ⟨⟨hkept, -, turns, hcarries, htimely⟩, hend⟩ := Schedule.run_induction
    (P := fun u => Schedule.Kept s (m.tasks 0) u ∧ u.WithinSlots ∧
      ∃ turns, ((opening s m s.slots).run turns).Carries u ∧ (opening s m s.slots).Timely turns)
    (by
      rintro u u' ⟨hkept, hwithin, turns, hcarries, htimely⟩ hstep
      obtain ⟨more, hcarries', htimely'⟩ := hcarries.step hkept hwithin htriggers hstep
      refine ⟨Schedule.kept_step hkept hstep, Schedule.withinSlots_step hkept hwithin hstep,
        turns ++ more, ?_, timely_append htimely htimely'⟩
      rwa [run_append])
    { engine := s, ready := m.tasks 0 }
    ⟨Schedule.kept_start s hfresh, Schedule.withinSlots_start s hfresh, [], hstart, trivial⟩
  obtain ⟨hready, haside, hwaiting⟩ := hkept.idle hend
  have hopened := hcarries.system.opened
  rw [hready, haside, hwaiting] at hopened
  exact ⟨turns, System.opened_eq_nil_iff.1 (List.perm_nil.1 hopened), htimely,
    hcarries.system.recorded⟩

end Gate

theorem Engine.slots_le (s : Engine) : (s.slots : Int) ≤ max 1 s.limits.concurrency := by
  rw [slots]
  omega

/-- What holds while a trigger carries out some workflows, and when it is done, in any order of
turns.

At no time are more workflows at work than may be, from the first action to the end of the
recording; a limit below one counts as one.  Each workflow has begun the first of its actions, one
after the other.  There is always a way to the end, and at the end the executions in the order of
the workflows make up the result.  It agrees with the result of carrying out the workflows one after
the other if what an action comes to depends on nothing but the action; where a database keeps the
log, durations have to be numbers for this, since it keeps no others.

The schedule keeps to its slots, and the trigger that it carries out is one of these runs. -/
theorem workflows_interleaved (s : Engine) (m : Match) (limit : Int) (turns : List (Nat × Bool)) :
    let final := (Gate.opening s m limit).run turns
    final.system.errands.countP final.system.isAtWork ≤ final.underway ∧
    (final.underway : Int) ≤ max 1 limit ∧
    (∀ e ∈ final.system.errands, e.Follows final.system.history) ∧
    (∃ more, (final.run more).system.isDone = true ∧ final.Timely more) ∧
    (final.system.isDone = true →
      (∃ runs, List.Forall₂ Task.Performs (m.tasks 0) runs ∧ runs.Perm final.system.recorded ∧
        final.result m = Engine.resultOf m runs) ∧
      ((Gate.opening s m limit).Timely turns → s.Independent → s.Numbered →
        (s.log.backend = .database →
          ∀ f ∈ final.system.recorded ++ (Task.performAll (m.tasks 0) s).1, f.IsMeasured) →
        (s.oneByOne m).Agrees (final.result m))) ∧
    (∀ u, Relation.ReflTransGen (fun u u' : Schedule => u.step? = some u')
        { engine := s, ready := m.tasks 0 } u →
      (u.running 0 : Int) ≤ max 1 s.limits.concurrency) ∧
    ∀ v context, s.lookUp v context = .ok m → m.definitions = s.matching m.eventType m.context ∧
      ∃ own, ((Gate.opening s m s.slots).run own).system.isDone = true ∧
        (Gate.opening s m s.slots).Timely own ∧
        (s.trigger v context).1 = ((Gate.opening s m s.slots).run own).result m := by
  intro final
  have hpermits : final.permits + final.underway = max 1 limit.toNat :=
    Gate.permits_opening s m limit turns
  refine ⟨Gate.atWork_le_underway s m limit turns, by omega,
    (Gate.accounted_run s m limit turns).follows, final.exists_rest (by omega), ?_, ?_, ?_⟩
  · intro hdone
    exact ⟨Gate.exists_runs s m limit turns hdone, fun htimely hindependent hnumbered =>
      Gate.agrees_run hindependent hnumbered htimely hdone⟩
  · intro u hreach
    have hbound : (u.running 0 : Int) ≤ s.slots :=
      Int.ofNat_le.2 (Schedule.running_le_slots (m.ticket_tasks 0) hreach 0)
    exact hbound.trans s.slots_le
  · intro v context hlookUp
    obtain ⟨own, hdone, htimely, hrecorded⟩ := Gate.carries_run s m
    refine ⟨Engine.definitions_of_lookUp hlookUp, own, hdone, htimely, ?_⟩
    rw [Engine.trigger_of_lookUp hlookUp, Gate.result, hrecorded]

/-- The workflows that match a payment for the basic plan; the second cannot be recorded. -/
def Match.halfRecorded : Match :=
  ⟨.paymentFailed, .mapping Engine.basicPayment,
    Engine.halfRecorded.matching .paymentFailed (.mapping Engine.basicPayment)⟩

/-- The second workflow starts, the first one finds no permit until the second one is done. -/
def Gate.reversed : List (Nat × Bool) :=
  [1, 0, 1, 1, 1, 0, 0, 0, 0, 0, 0].map (·, false)

/-- The workflow for another plan is left out.  Although no workflow may be underway, the others are
carried out one at a time, the second one first, and the result agrees with that of the order of the
store. -/
theorem workflows_interleaved_reversed :
    let s := Engine.halfRecorded.withOutcomes fun _ => {}
    let final := (Gate.opening s .halfRecorded 0).run Gate.reversed
    final.system.isDone = true ∧ (Gate.opening s .halfRecorded 0).Timely Gate.reversed ∧
      s.Independent ∧ final.system.recorded.map (·.place) = [1, 0] ∧
      (final.result .halfRecorded).workflowIds = ["id0001", "id0002"] ∧
      (s.oneByOne .halfRecorded).Agrees (final.result .halfRecorded) := by
  intro s final
  have hfixed := Engine.halfRecorded.fixed_withOutcomes fun _ => {}
  have hindependent : s.Independent := hfixed.independent
  have htimely : (Gate.opening s .halfRecorded 0).Timely Gate.reversed :=
    Gate.timely_of_fixed hfixed (fun _ => rfl) (Gate.kept_opening s .halfRecorded 0) (by decide)
  have hdone : final.system.isDone = true := by decide +kernel
  obtain ⟨-, -, -, -, hresult, -, -⟩ :=
    workflows_interleaved s .halfRecorded 0 Gate.reversed
  refine ⟨hdone, htimely, hindependent, by decide +kernel, by decide +kernel, ?_⟩
  exact (hresult hdone).2 htimely hindependent nofun nofun

end Automation
