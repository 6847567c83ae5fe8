import Automation.Proofs.Trigger.Task
import Automation.Trigger.Schedule
import Mathlib.Data.List.Nodup

/-!
# What a run of the schedule does

The *books* of a schedule say what became of the tasks with which it began (`Schedule.Books`): each
is done, with an execution that completes it, or it is still to be carried on, and the log has grown
by the records that could be kept, in the order in which the executions were finished.  A turn keeps
the books (`kept_take`), so they are right at the end of a run (`books_run`).

At the end no task is left.  A task that waits for a slot is *attended*: another task of its trigger
has a slot, and gives it to one that waits when it is done (`Schedule.Kept`).  Where no task has its
turn and none stands aside there is no such other task, so none waits.
-/

namespace Automation

theorem Backend.id_storedRecord (b : Backend) (r : ExecutionRecord) :
    (b.storedRecord r).id = r.id := by
  cases b <;> rfl

theorem Engine.slots_pos (s : Engine) : 0 < s.slots := by
  rw [slots]
  omega

namespace Schedule

/-! ## Books -/

/-- The record of an execution is kept if it can be, and else the execution has a fault. -/
def Settled (s₀ : Engine) (f : Finished) : Prop :=
  (s₀.Recordable f.record ∧ f.fault = none) ∨
    ¬ s₀.Recordable f.record ∧ ∃ failure : Failure,
      f.fault = some ("failed to record execution: " ++ failure.text) ∧
        ∀ g, s₀.unrecordable? f.record.workflowId = some g → failure = g

/-- The records of executions that were kept. -/
def keptRecords (b : Backend) (finished : List Finished) : List ExecutionRecord :=
  (finished.filter fun f => f.fault.isNone).map fun f => b.storedRecord f.record

theorem keptRecords_append (b : Backend) (finished others : List Finished) :
    keptRecords b (finished ++ others) = keptRecords b finished ++ keptRecords b others := by
  simp [keptRecords]

end Schedule

theorem Engine.Recorded.fault_eq_none_iff {s : Engine} {f : Finished} {log : Log}
    (h : s.Recorded f log) : f.fault = none ↔ s.Recordable f.record := by
  cases h with
  | kept recordable fault => exact iff_of_true fault recordable
  | lost refused fault cause => exact iff_of_false (by simp [fault]) refused

/-- The log grows by the record of an execution if it is kept. -/
theorem Engine.Recorded.log_eq {s : Engine} {f : Finished} {log : Log} (h : s.Recorded f log) :
    log = { s.log with
      records := s.log.records ++ Schedule.keptRecords s.log.backend [f] } := by
  cases h with
  | kept recordable fault => simp [Schedule.keptRecords, fault]
  | lost refused fault cause => simp [Schedule.keptRecords, fault]

namespace Schedule

/-- What became of some tasks: some executions were finished, and some tasks are left. -/
structure Books (s₀ : Engine) (ts : List Task) (engine : Engine) (finished : List Finished)
    (left : List Task) : Prop where
  steady : s₀.Steady engine
  /-- The tasks that are left did what they had to do so far. -/
  sound : ∀ t ∈ left, t.Sound s₀
  /-- Every task is completed by one of the executions, or is left. -/
  tickets : ∃ done, List.Forall₂ (Task.Completes s₀) done finished ∧
    (done ++ left.map Task.ticket).Perm ts
  /-- The log has grown by the records that were kept. -/
  log : engine.log =
    { s₀.log with records := s₀.log.records ++ keptRecords s₀.log.backend finished }
  /-- The identifiers of the records were issued meanwhile. -/
  issued : ∀ f ∈ finished, Engine.Issued s₀.issued engine.issued f.record.id
  nodup : (finished.map fun f => f.record.id).Nodup
  settled : ∀ f ∈ finished, Settled s₀ f

namespace Books

variable {s₀ engine engine' : Engine} {ts left left' : List Task} {finished : List Finished}
  {t t' : Task} {f : Finished}

theorem perm (h : Books s₀ ts engine finished left) (hleft : left.Perm left') :
    Books s₀ ts engine finished left' := by
  obtain ⟨done, hdone, htickets⟩ := h.tickets
  have hperm : (done ++ left'.map Task.ticket).Perm ts :=
    ((hleft.map Task.ticket).symm.append_left done).trans htickets
  exact { h with
    sound := fun t ht => h.sound t (hleft.mem_iff.2 ht)
    tickets := ⟨done, hdone, hperm⟩ }

/-- A task that has had its turn and is left. -/
theorem suspend (h : Books s₀ ts engine finished (t :: left)) (hsound : t'.Sound s₀)
    (hticket : t'.ticket = t.ticket) (hquiet : engine.Quiet engine') :
    Books s₀ ts engine' finished (t' :: left) := by
  refine ⟨h.steady.trans hquiet.toSteady, ?_, ?_, hquiet.log.trans h.log, ?_, h.nodup, h.settled⟩
  · intro u hu
    rcases List.mem_cons.1 hu with rfl | hu
    · exact hsound
    · exact h.sound u (List.mem_cons_of_mem t hu)
  · simpa only [List.map_cons, hticket] using h.tickets
  · exact fun f hf => (h.issued f hf).mono le_rfl hquiet.issued

/-- A record under a fresh identifier can be kept now if it could be kept at the start. -/
theorem recordable_iff (h : Books s₀ ts engine finished left) {r : ExecutionRecord} {high : Nat}
    (hid : Engine.Issued engine.issued high r.id) :
    engine.Recordable r ↔ s₀.Recordable r := by
  have hkept : ∀ q ∈ keptRecords s₀.log.backend finished, q.id ≠ r.id := by
    intro q hq
    obtain ⟨f, hf, rfl⟩ := List.mem_map.1 hq
    rw [Backend.id_storedRecord]
    exact (h.issued f (List.mem_of_mem_filter hf)).ne hid le_rfl
  constructor
  · rintro ⟨available, form, free⟩
    rw [h.steady.unrecordable?_eq] at available
    rw [h.log] at form free
    exact ⟨available, form, fun hb q hq => free hb q (List.mem_append_left _ hq)⟩
  · rintro ⟨available, form, free⟩
    refine ⟨by rw [h.steady.unrecordable?_eq, available], by rw [h.log, form], ?_⟩
    rw [h.log]
    intro hb q hq
    rcases List.mem_append.1 hq with hq | hq
    · exact free hb q hq
    · exact hkept q hq

/-- The books after the recording of an execution. -/
theorem recorded (h : Books s₀ ts engine finished left) {high : Nat}
    (hid : Engine.Issued engine.issued high f.record.id) {log : Log}
    (hrecorded : engine.Recorded f log) :
    Settled s₀ f ∧ log =
      { s₀.log with records := s₀.log.records ++ keptRecords s₀.log.backend (finished ++ [f]) } := by
  have hiff := h.recordable_iff hid
  constructor
  · cases hrecorded with
    | kept recordable fault => exact .inl ⟨hiff.1 recordable, fault⟩
    | @lost failure refused fault cause =>
      refine .inr ⟨fun hr => refused (hiff.2 hr), failure, fault, fun g hg => cause g ?_⟩
      rw [h.steady.unrecordable?_eq, hg]
  · rw [hrecorded.log_eq, h.log, keptRecords_append, List.append_assoc]

/-- A task that is done. -/
theorem finish (h : Books s₀ ts engine finished (t :: left)) (hcompletes : t.Completes s₀ f)
    (hconcludes : engine.Concludes f engine') :
    Books s₀ ts engine' (finished ++ [f]) left := by
  obtain ⟨hsettled, hlog⟩ := h.recorded hconcludes.id hconcludes.recorded
  obtain ⟨done, hdone, htickets⟩ := h.tickets
  refine ⟨h.steady.trans hconcludes.steady, ?_, ⟨done ++ [t.ticket], ?_, ?_⟩, hlog, ?_, ?_, ?_⟩
  · intro u hu
    exact h.sound u (List.mem_cons_of_mem t hu)
  · exact List.rel_append hdone (.cons hcompletes.ticket .nil)
  · simpa using htickets
  · intro g hg
    rcases List.mem_append.1 hg with hg | hg
    · exact (h.issued g hg).mono le_rfl hconcludes.steady.issued
    · obtain rfl := List.mem_singleton.1 hg
      exact hconcludes.id.mono h.steady.issued le_rfl
  · have hnew : f.record.id ∉ finished.map fun g => g.record.id := by
      intro hmem
      obtain ⟨g, hg, hsame⟩ := List.mem_map.1 hmem
      exact (h.issued g hg).ne hconcludes.id le_rfl hsame
    rw [List.map_append]
    exact List.concat_eq_append ▸ List.Nodup.concat hnew h.nodup
  · intro g hg
    rcases List.mem_append.1 hg with hg | hg
    · exact h.settled g hg
    · exact List.mem_singleton.1 hg ▸ hsettled

end Books

/-! ## Turns -/

/-- A schedule whose books are right, and in which another task of the trigger has a slot where one
waits. -/
structure Kept (s₀ : Engine) (ts : List Task) (s : Schedule) : Prop where
  books : Books s₀ ts s.engine s.finished (s.ready ++ s.aside ++ s.waiting)
  fresh : ∀ t ∈ s.waiting, t.stage = .fresh
  attended : ∀ t ∈ s.waiting, ∃ u ∈ s.ready ++ s.aside,
    u.trigger = t.trigger ∧ u.hasSlot = true

theorem removeFirst?_eq_some {trigger : Nat} :
    ∀ {ts rest : List Task} {t : Task}, removeFirst? trigger ts = some (t, rest) →
      t.trigger = trigger ∧ ts.Perm (t :: rest)
  | [], _, _, h => by cases h
  | u :: us, rest, t, h => by
    rw [removeFirst?] at h
    split at h
    · cases h
      exact ⟨‹_›, .refl _⟩
    · obtain ⟨⟨t', rest'⟩, hr, he⟩ := Option.map_eq_some_iff.1 h
      cases he
      obtain ⟨htrigger, hperm⟩ := removeFirst?_eq_some hr
      exact ⟨htrigger, (hperm.cons u).trans (.swap t' u rest')⟩

theorem removeFirst?_eq_none {trigger : Nat} :
    ∀ {ts : List Task}, removeFirst? trigger ts = none → ∀ t ∈ ts, t.trigger ≠ trigger
  | [], _ => by simp
  | u :: us, h => by
    rw [removeFirst?] at h
    split at h
    · cases h
    · rw [Option.map_eq_none_iff] at h
      intro t ht
      rcases List.mem_cons.1 ht with rfl | ht
      · assumption
      · exact removeFirst?_eq_none h t ht

/-- A slot is given to one of the tasks that wait for it, if there is one. -/
theorem kept_handSlot {s₀ : Engine} {ts : List Task} {s : Schedule} (trigger : Nat)
    (hbooks : Books s₀ ts s.engine s.finished (s.ready ++ s.aside ++ s.waiting))
    (hfresh : ∀ t ∈ s.waiting, t.stage = .fresh)
    (hattended : ∀ t ∈ s.waiting, t.trigger ≠ trigger →
      ∃ u ∈ s.ready ++ s.aside, u.trigger = t.trigger ∧ u.hasSlot = true) :
    Kept s₀ ts (s.handSlot trigger) := by
  rw [handSlot]
  cases hremove : removeFirst? trigger s.waiting with
  | none =>
    refine ⟨hbooks, hfresh, fun t ht => hattended t ht (removeFirst?_eq_none hremove t ht)⟩
  | some found =>
    obtain ⟨w, waiting⟩ := found
    obtain ⟨htrigger, hperm⟩ := removeFirst?_eq_some hremove
    have hw : w ∈ s.waiting := hperm.mem_iff.2 List.mem_cons_self
    have hrest : ∀ t ∈ waiting, t ∈ s.waiting := fun t ht =>
      hperm.mem_iff.2 (List.mem_cons_of_mem w ht)
    have hfront : (s.ready ++ s.aside ++ s.waiting).Perm (w :: (s.ready ++ s.aside ++ waiting)) :=
      (hperm.append_left _).trans List.perm_middle
    have hsound : w.Sound s₀ := hbooks.sound w (by simp [hw])
    have hadmitted : ({ w with stage := .admitted } : Task).Sound s₀ := by
      simpa only [Task.Sound, hfresh w hw] using hsound
    have hback : ({ w with stage := .admitted } :: (s.ready ++ s.aside ++ waiting)).Perm
        (s.ready ++ [{ w with stage := .admitted }] ++ s.aside ++ waiting) := by
      simp only [List.append_assoc, List.singleton_append]
      exact List.perm_middle.symm
    have hbooks' : Books s₀ ts s.engine s.finished
        ({ w with stage := .admitted } :: (s.ready ++ s.aside ++ waiting)) :=
      (hbooks.perm hfront).suspend hadmitted rfl (.refl _)
    refine ⟨hbooks'.perm hback, fun t ht => hfresh t (hrest t ht), fun t ht => ?_⟩
    by_cases hsame : t.trigger = trigger
    · exact ⟨{ w with stage := .admitted }, by simp, htrigger.trans hsame.symm, rfl⟩
    · obtain ⟨u, hu, hslot⟩ := hattended t (hrest t ht) hsame
      refine ⟨u, ?_, hslot⟩
      rcases List.mem_append.1 hu with hu | hu
      · simp [hu]
      · simp [hu]

/-- A task that had its turn and is left, wherever it stands. -/
theorem kept_suspend {s₀ : Engine} {ts : List Task} {s u : Schedule} {t t' : Task}
    (h : Kept s₀ ts { s with ready := t :: s.ready }) (hsound : t'.Sound s₀)
    (hticket : t'.ticket = t.ticket) (hslot : t'.hasSlot = true) (hquiet : s.engine.Quiet u.engine)
    (hfinished : u.finished = s.finished) (hwaiting : u.waiting = s.waiting)
    (hperm : (t' :: (s.ready ++ s.aside)).Perm (u.ready ++ u.aside)) : Kept s₀ ts u := by
  have htrigger : t'.trigger = t.trigger := Task.trigger_of_ticket hticket
  have hbooks : Books s₀ ts s.engine s.finished (t :: (s.ready ++ s.aside ++ s.waiting)) := h.books
  refine ⟨?_, ?_, ?_⟩
  · rw [hfinished, hwaiting]
    exact (hbooks.suspend hsound hticket hquiet).perm (hperm.append_right s.waiting)
  · rw [hwaiting]
    exact h.fresh
  · intro w hw
    rw [hwaiting] at hw
    obtain ⟨v, hv, hsame, hvslot⟩ := h.attended w hw
    rcases List.mem_cons.1 hv with rfl | hv
    · exact ⟨t', hperm.mem_iff.1 List.mem_cons_self, htrigger.trans hsame, hslot⟩
    · exact ⟨v, hperm.mem_iff.1 (List.mem_cons_of_mem t' hv), hsame, hvslot⟩

/-- A turn of a task that leads on is kept in the books. -/
theorem kept_place {s₀ engine : Engine} {ts : List Task} {s : Schedule} {t : Task} {turn : Turn}
    (h : Kept s₀ ts { s with ready := t :: s.ready })
    (hleads : t.Leads s₀ s.engine (turn, engine)) : Kept s₀ ts (s.place turn engine) := by
  cases hleads with
  | @suspended t' _ ticket sound slot quiet =>
    refine kept_suspend h sound ticket slot quiet rfl rfl ?_
    simp only [place, List.append_assoc, List.singleton_append]
    exact List.perm_middle.symm
  | @stuck t' _ ticket sound slot quiet =>
    refine kept_suspend h sound ticket slot quiet rfl rfl ?_
    simp only [place, ← List.append_assoc]
    exact (List.perm_append_singleton t' _).symm
  | @finished f _ completes concludes =>
    refine kept_handSlot f.trigger (Books.finish h.books completes concludes) h.fresh ?_
    intro w hw hother
    obtain ⟨u, hu, hsame, huslot⟩ := h.attended w hw
    rcases List.mem_cons.1 hu with rfl | hu
    · exact absurd (hsame.symm.trans completes.trigger.symm) hother
    · exact ⟨u, hu, hsame, huslot⟩

/-- A task that finds no free slot waits for one. -/
theorem kept_wait {s₀ : Engine} {ts : List Task} {s : Schedule} {t : Task}
    (h : Kept s₀ ts { s with ready := t :: s.ready }) (hstage : t.stage = .fresh)
    (hfull : ¬ s.running t.trigger < s.engine.slots) :
    Kept s₀ ts { s with waiting := s.waiting ++ [t] } := by
  have hbooks : Books s₀ ts s.engine s.finished (t :: (s.ready ++ s.aside ++ s.waiting)) := h.books
  -- There is a slot at least, so another task has one.
  have hslots := s.engine.slots_pos
  have hrunning : 0 < s.running t.trigger := by omega
  obtain ⟨v, hv, hslot⟩ := List.countP_pos_iff.1 hrunning
  simp only [Bool.and_eq_true, beq_iff_eq] at hslot
  refine ⟨hbooks.perm ?_, ?_, ?_⟩
  · simp only [← List.append_assoc]
    exact (List.perm_append_singleton t _).symm
  · intro w hw
    rcases List.mem_append.1 hw with hw | hw
    · exact h.fresh w hw
    · exact List.mem_singleton.1 hw ▸ hstage
  · intro w hw
    rcases List.mem_append.1 hw with hw | hw
    · obtain ⟨u, hu, hsame, huslot⟩ := h.attended w hw
      rcases List.mem_cons.1 hu with rfl | hu
      · simp [Task.hasSlot, hstage] at huslot
      · exact ⟨u, hu, hsame, huslot⟩
    · obtain rfl := List.mem_singleton.1 hw
      exact ⟨v, hv, hslot⟩

/-- A turn is kept in the books. -/
theorem kept_take {s₀ : Engine} {ts : List Task} {s : Schedule} {t : Task}
    (h : Kept s₀ ts { s with ready := t :: s.ready }) : Kept s₀ ts (s.take t) := by
  have hsteady : s₀.Steady s.engine := h.books.steady
  have hsound : t.Sound s₀ := h.books.sound t (by simp)
  cases hstage : t.stage with
  | fresh =>
    simp only [Task.Sound, hstage] at hsound
    by_cases hfree : s.running t.trigger < s.engine.slots
    · simp only [take, hstage, if_pos hfree]
      exact kept_place h (Task.leads_start hsteady hsound)
    · simp only [take, hstage, if_neg hfree]
      exact kept_wait h hstage hfree
  | admitted =>
    simp only [Task.Sound, hstage] at hsound
    simp only [take, hstage]
    exact kept_place h (Task.leads_start hsteady hsound)
  | calling progress p pauses =>
    simp only [Task.Sound, hstage] at hsound
    cases pauses with
    | zero =>
      simp only [take, hstage]
      exact kept_place h (Task.leads_resume hsteady hsound)
    | succ pauses =>
      have hsound' : ({ t with stage := .calling progress p pauses } : Task).Sound s₀ := hsound
      simp only [take, hstage]
      refine kept_suspend h hsound' rfl rfl (.refl _) rfl rfl ?_
      simp only [List.append_assoc, List.singleton_append]
      exact List.perm_middle.symm
  | expired progress p =>
    simp only [Task.Sound, hstage] at hsound
    simp only [take, hstage]
    exact kept_place h (Task.leads_resume hsteady hsound)

theorem kept_step {s₀ : Engine} {ts : List Task} {s u : Schedule} (h : Kept s₀ ts s)
    (hstep : s.step? = some u) : Kept s₀ ts u := by
  cases hready : s.ready with
  | cons t ready =>
    simp only [step?, hready, Option.some.injEq] at hstep
    have hs : s = { ({ s with ready } : Schedule) with ready := t :: ready } := by rw [← hready]
    rw [hs] at h
    exact hstep ▸ kept_take h
  | nil =>
    cases haside : s.aside with
    | nil => simp [step?, hready, haside] at hstep
    | cons t aside =>
      simp only [step?, hready, haside, Option.some.injEq] at hstep
      obtain ⟨books, fresh, attended⟩ := h
      rw [hready, haside] at books attended
      rw [← hstep]
      exact ⟨by simpa using books, fresh, by simpa using attended⟩

/-! ## Runs -/

theorem run_of_none {s : Schedule} (h : s.step? = none) : s.run = s := by
  rw [run]
  split
  · rfl
  · rename_i u hsome
    cases h.symm.trans hsome

theorem run_of_some {s u : Schedule} (h : s.step? = some u) : s.run = u.run := by
  rw [run]
  split
  · rename_i hnone
    cases h.symm.trans hnone
  · rename_i v hsome
    rw [Option.some.inj (h.symm.trans hsome)]

/-- What every turn preserves holds at the end of a run, where no turn is left. -/
theorem run_induction {P : Schedule → Prop} (hstep : ∀ s u, P s → s.step? = some u → P u)
    (s : Schedule) (h : P s) : P s.run ∧ s.run.step? = none := by
  induction s using run.induct with
  | case1 s hnone =>
    rw [run_of_none hnone]
    exact ⟨h, hnone⟩
  | case2 s u hsome ih =>
    rw [run_of_some hsome]
    exact ih (hstep s u h hsome)

theorem kept_start (s₀ : Engine) {ts : List Task} (hfresh : ∀ t ∈ ts, t.ticket = t) :
    Kept s₀ ts { engine := s₀, ready := ts } := by
  have htickets : ts.map Task.ticket = ts := by
    calc ts.map Task.ticket = ts.map id := List.map_congr_left hfresh
      _ = ts := List.map_id ts
  have hsound : ∀ t ∈ ts, t.Sound s₀ := by
    intro t ht
    rw [← hfresh t ht]
    rfl
  refine ⟨⟨.refl s₀, by simpa using hsound, ⟨[], .nil, ?_⟩, ?_, ?_, ?_, ?_⟩, ?_, ?_⟩
  · simp [htickets]
  · simp [keptRecords]
  · simp
  · simp
  · simp
  · simp
  · simp

/-- Where no turn is left, no task has its turn and none stands aside, so none waits either. -/
theorem Kept.idle {s₀ : Engine} {ts : List Task} {s : Schedule} (h : Kept s₀ ts s)
    (hend : s.step? = none) : s.ready = [] ∧ s.aside = [] ∧ s.waiting = [] := by
  obtain ⟨hready, haside⟩ : s.ready = [] ∧ s.aside = [] := by
    rw [step?] at hend
    split at hend
    · cases hend
    · exact ⟨‹_›, ‹_›⟩
    · cases hend
  refine ⟨hready, haside, ?_⟩
  rw [List.eq_nil_iff_forall_not_mem]
  intro w hw
  obtain ⟨u, hu, -⟩ := h.attended w hw
  simp [hready, haside] at hu

/-- What comes of a run that begins with fresh tasks: all of them are done, and the books are
right. -/
theorem books_run (s₀ : Engine) {ts : List Task} (hfresh : ∀ t ∈ ts, t.ticket = t) :
    Books s₀ ts (run { engine := s₀, ready := ts }).engine
      (run { engine := s₀, ready := ts }).finished [] := by
  obtain ⟨hkept, hend⟩ := run_induction (P := Kept s₀ ts) (fun s u h hu => kept_step h hu) _
    (kept_start s₀ hfresh)
  obtain ⟨hready, haside, hwaiting⟩ := hkept.idle hend
  have hbooks := hkept.books
  rwa [hready, haside, hwaiting] at hbooks

end Schedule

end Automation
