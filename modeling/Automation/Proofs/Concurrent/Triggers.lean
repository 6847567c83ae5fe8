import Automation.Proofs.Concurrent.Journal

/-!
# Triggers side by side

Triggers that arrive while others are carried out, and while callers change what is stored, neither
lose nor repeat any work (`triggers_interleaved`).  Each works with the workflows that it looked up
when it arrived.  The log interleaves the records of the single triggers (`Interleaves`), since
nothing is done to it but that a record is put at its end.
-/

namespace Automation

/-! ## Interleavings -/

/-- A list interleaves others: it takes from all of them, from each in order, until nothing is
left. -/
inductive Interleaves {α : Type} : List (List α) → List α → Prop where
  | nil {ls : List (List α)} (empty : ∀ l ∈ ls, l = []) : Interleaves ls []
  | snoc {ls : List (List α)} {l xs : List α} {x : α} {n : Nat} (before : Interleaves ls xs)
      (source : ls[n]? = some l) : Interleaves (ls.set n (l ++ [x])) (xs ++ [x])

/-- The records of executions interleave those of the single triggers. -/
theorem interleaves_keptRecords (b : Backend) {triggers : Nat} {fs : List Finished}
    (h : ∀ f ∈ fs, f.trigger < triggers) :
    Interleaves ((List.range triggers).map fun n =>
        Schedule.keptRecords b (fs.filter fun f => f.trigger == n))
      (Schedule.keptRecords b fs) := by
  induction fs using List.reverseRecOn with
  | nil =>
    refine .nil fun l hl => ?_
    obtain ⟨n, -, rfl⟩ := List.mem_map.1 hl
    rfl
  | append_singleton fs f ih =>
    have hbefore := ih fun g hg => h g (List.mem_append_left _ hg)
    have hf : f.trigger < triggers := h f (by simp)
    have hlast : ∀ n, Schedule.keptRecords b ((fs ++ [f]).filter fun f => f.trigger == n) =
        Schedule.keptRecords b (fs.filter fun f => f.trigger == n) ++
          if f.trigger = n then Schedule.keptRecords b [f] else [] := by
      intro n
      rw [List.filter_append, Schedule.keptRecords_append]
      by_cases hn : f.trigger = n
      · simp [hn]
      · simp [hn, Schedule.keptRecords]
    simp only [hlast]
    rw [Schedule.keptRecords_append]
    cases hfault : f.fault with
    | some text =>
      have hnone : Schedule.keptRecords b [f] = [] := by simp [Schedule.keptRecords, hfault]
      simpa [hnone] using hbefore
    | none =>
      have hone : Schedule.keptRecords b [f] = [b.storedRecord f.record] := by
        simp [Schedule.keptRecords, hfault]
      have hsource : ((List.range triggers).map fun n =>
          Schedule.keptRecords b (fs.filter fun f => f.trigger == n))[f.trigger]? =
            some (Schedule.keptRecords b (fs.filter fun g => g.trigger == f.trigger)) := by
        simp [hf]
      rw [hone]
      convert hbefore.snoc (x := b.storedRecord f.record) hsource using 1
      refine List.ext_getElem (by simp) fun n hn _ => ?_
      rw [List.getElem_set]
      by_cases hsame : f.trigger = n
      · simp [hsame]
      · simp [hsame]

/-! ## Recordings that do not fail -/

namespace System

/-- An engine whose recordings fail for no reason but that the backend has no form for a record. -/
structure Faultless (b : Backend) (s : System) : Prop where
  backend : s.engine.log.backend = b
  recordable : ∀ id, s.engine.unrecordable? id = none
  numbered : b = .database → ∀ q ∈ s.engine.log.records, Engine.Issued 0 s.engine.issued q.id
  faults : ∀ f ∈ s.recorded, f.fault = none ↔ b.refusal? f.record = none

namespace Faultless

variable {b : Backend} {s : System}

/-- A record under a fresh identifier can be kept if the backend has a form for it. -/
theorem recordable_iff (h : s.Faultless b) {r : ExecutionRecord} {high : Nat}
    (hid : Engine.Issued s.engine.issued high r.id) :
    s.engine.Recordable r ↔ b.refusal? r = none := by
  constructor
  · intro hrecordable
    exact h.backend ▸ hrecordable.form
  · intro hform
    refine ⟨h.recordable _, h.backend.symm ▸ hform, fun hdatabase q hq => ?_⟩
    exact (h.numbered (h.backend.symm.trans hdatabase) q hq).ne hid le_rfl

theorem errand (h : s.Faultless b) (i : Nat) (expired : Bool) :
    (s.move (.errand i expired)).Faultless b := by
  rcases s.move_errand_cases i expired with hsame | ⟨e, e', event, s', -, hadvances, hmove⟩
  · rwa [hsame]
  rw [hmove]
  have hrecordable : ∀ id, s'.unrecordable? id = none := by
    intro id
    rw [hadvances.steady.unrecordable?_eq, h.recordable]
  have hold : b = .database → ∀ q ∈ s.engine.log.records, Engine.Issued 0 s'.issued q.id :=
    fun hb q hq => (h.numbered hb q hq).mono le_rfl hadvances.steady.issued
  rcases hadvances.outcome with ⟨hnone, hquiet⟩ | ⟨f, hone, hconcludes⟩
  · refine ⟨hquiet.log ▸ h.backend, hrecordable, hquiet.log.symm ▸ hold, ?_⟩
    rw [recorded_append, hnone, List.append_nil]
    exact h.faults
  · have hlog := hconcludes.recorded.log_eq
    refine ⟨?_, hrecordable, fun hb q hq => ?_, ?_⟩
    · rw [hlog]
      exact h.backend
    · rw [hlog] at hq
      rcases List.mem_append.1 hq with hq | hq
      · exact hold hb q hq
      · obtain ⟨g, hg, rfl⟩ := List.mem_map.1 hq
        obtain rfl := List.mem_singleton.1 (List.mem_of_mem_filter hg)
        rw [Backend.id_storedRecord]
        exact hconcludes.id.mono (Nat.zero_le _) le_rfl
    · rw [recorded_append, hone]
      intro g hg
      rcases List.mem_append.1 hg with hg | hg
      · exact h.faults g hg
      · obtain rfl := List.mem_singleton.1 hg
        rw [hconcludes.recorded.fault_eq_none_iff, h.recordable_iff hconcludes.id]

theorem run (h : s.Faultless b) {moves : List Move}
    (hpass : ∀ w, .pass w ∈ moves → ∀ id, w.recordFailure.or (w.recordFailures id) = none) :
    (s.run moves).Faultless b := by
  induction moves generalizing s with
  | nil => exact h
  | cons m moves ih =>
    refine ih ?_ fun w hw => hpass w (List.mem_cons_of_mem m hw)
    cases m with
    | trigger v context =>
      refine ⟨h.backend, h.recordable, h.numbered, fun f hf => h.faults f ?_⟩
      simpa [move, recorded, List.filterMap_cons, Event.recorded?] using hf
    | errand i expired => exact h.errand i expired
    | caller i => exact ⟨h.backend, h.recordable, h.numbered, h.faults⟩
    | pass w => exact ⟨h.backend, hpass w List.mem_cons_self, h.numbered, h.faults⟩

end Faultless

end System

/-! ## Errands that are done -/

/-- An errand that is done has begun all actions of its workflow and performed its task. -/
theorem Errand.Follows.done {e : Errand} {history : List Event} (h : e.Follows history)
    {f : Finished} (hdone : e.finished? = some f) :
    e.task.ticket.Performs f ∧ history.filterMap (Event.begun? e.task.trigger e.task.place) =
      e.task.definition.actions.map fun a => (a, e.task.context) := by
  obtain ⟨t, phase⟩ := e
  obtain ⟨done, hactions, hagrees, hbegun⟩ := h
  cases phase with
  | finished g =>
    obtain rfl : g = f := Option.some.inj hdone
    obtain ⟨hrest : t.rest = [], hperforms⟩ := hagrees
    have hticket : t.ticket.Performs g :=
      ⟨hperforms.trigger, hperforms.place, hperforms.workflowId, hperforms.eventType,
        hperforms.status, hperforms.results⟩
    have hall : t.definition.actions = done := by simpa [hrest] using hactions
    exact ⟨hticket, by rw [hbegun, hall]⟩
  | _ => cases hdone

/-- Errands that are done have performed their tasks, one execution for each. -/
theorem Errand.performs {history : List Event} {es : List Errand}
    (hfollows : ∀ e ∈ es, e.Follows history) (hdone : ∀ e ∈ es, e.finished?.isSome = true) :
    List.Forall₂ Task.Performs (es.map fun e => e.task.ticket) (es.filterMap finished?) := by
  induction es with
  | nil => exact .nil
  | cons e es ih =>
    obtain ⟨f, hf⟩ := Option.isSome_iff_exists.1 (hdone e List.mem_cons_self)
    have hrest := ih (fun u hu => hfollows u (List.mem_cons_of_mem e hu))
      fun u hu => hdone u (List.mem_cons_of_mem e hu)
    rw [List.map_cons, List.filterMap_cons_some hf]
    exact .cons ((hfollows e List.mem_cons_self).done hf).1 hrest

namespace System

/-- What a trigger comes to that finds some workflows in an engine: it carries out just these as
they were then, and records one execution of each. -/
structure Serves (s : System) (trigger : Nat) (before : Engine) (m : Match) : Prop where
  snapshot : m.definitions = before.matching m.eventType m.context
  begun : ∀ place, s.begun trigger place =
    m.definitions[place]?.toList.flatMap fun d => d.actions.map fun a => (a, m.context)
  runs : ∃ runs, List.Forall₂ Task.Performs (m.tasks trigger) runs ∧
    runs.Perm (s.recordedBy trigger) ∧
    (Engine.triggered s.recorded trigger (.ok m)).1 = Engine.resultOf m runs

namespace Accounted

variable {s₀ : Engine} {s : System}

theorem performs (h : Accounted s₀ s) (hdone : s.isDone = true) :
    List.Forall₂ Task.Performs (Engine.tasksOf s.found) (s.errands.filterMap Errand.finished?) := by
  rw [← h.tickets]
  exact Errand.performs h.follows (List.all_eq_true.1 hdone)

theorem begun_eq (h : Accounted s₀ s) (hdone : s.isDone = true) {n : Nat} {m : Match}
    (hfound : s.found[n]? = some (.ok m)) (place : Nat) : s.begun n place =
      m.definitions[place]?.toList.flatMap fun d => d.actions.map fun a => (a, m.context) := by
  obtain ⟨hn, hm⟩ := List.getElem?_eq_some_iff.1 hfound
  rcases Nat.lt_or_ge place m.definitions.length with hplace | hplace
  · have htask : Task.mk n place m.definitions[place] m.eventType m.context
        m.definitions[place].actions .fresh ∈ m.tasks n := List.mem_mapIdx.2 ⟨place, hplace, rfl⟩
    have htasks : m.tasks n = (Engine.tasksOf s.found).filter fun t => t.trigger == n := by
      rw [Engine.filter_tasksOf _ hn, hm, Engine.tasksAt]
    rw [htasks] at htask
    have hticket := List.mem_of_mem_filter htask
    rw [← h.tickets] at hticket
    obtain ⟨e, he, hticket⟩ := List.mem_map.1 hticket
    obtain ⟨f, hf⟩ := Option.isSome_iff_exists.1 (List.all_eq_true.1 hdone e he)
    obtain ⟨htrigger, hseat, hdefinition, -, hcontext, -⟩ := Task.mk.inj hticket
    have hbegun := ((h.follows e he).done hf).2
    rw [htrigger, hseat, hdefinition, hcontext] at hbegun
    simpa [begun, hplace] using hbegun
  · have hfree : (n, place) ∉ s.errands.map Errand.seat := by
      intro hseat
      obtain ⟨e, he, hsame⟩ := List.mem_map.1 hseat
      obtain ⟨rfl, rfl⟩ := Prod.mk.inj hsame
      obtain ⟨-, m', hm', hlt⟩ := Engine.mem_tasksOf (h.ticket_mem he)
      cases hfound.symm.trans hm'
      exact absurd hlt (Nat.not_lt.2 hplace)
    rw [h.seated n place hfree, List.getElem?_eq_none hplace]
    rfl

/-- The executions of a trigger, put into the order of its workflows, make up its result. -/
theorem runs (h : Accounted s₀ s) (hdone : s.isDone = true) {n : Nat} {m : Match}
    (hfound : s.found[n]? = some (.ok m)) :
    ∃ runs, List.Forall₂ Task.Performs (m.tasks n) runs ∧ runs.Perm (s.recordedBy n) ∧
      (Engine.triggered s.recorded n (.ok m)).1 = Engine.resultOf m runs := by
  obtain ⟨hn, hm⟩ := List.getElem?_eq_some_iff.1 hfound
  have hruns := List.rel_filter (p := fun t : Task => t.trigger == n)
    (q := fun f : Finished => f.trigger == n) (fun t f (ht : t.Performs f) => by
      simp only [ht.trigger]) (h.performs hdone)
  rw [Engine.filter_tasksOf _ hn, hm] at hruns
  have hperm := (h.recorded.filter fun f => f.trigger == n).symm
  refine ⟨_, hruns, hperm, ?_⟩
  have hplaces : (List.map (·.place) (List.filter (fun f => f.trigger == n)
      (s.errands.filterMap Errand.finished?))) = List.range m.definitions.length := by
    rw [← m.map_place_tasks n]
    exact (map_eq_map_of_forall₂ hruns fun t f ht => ht.place.symm).symm
  simp only [Engine.triggered]
  rw [TriggerResult.of, TriggerResult.inOrder_eq hplaces hperm]
  rfl

theorem serves (h : Accounted s₀ s) (hdone : s.isDone = true) {n : Nat} {before : Engine}
    {v context : Value} {m : Match} (hlookUp : before.lookUp v context = .ok m)
    (hfound : s.found[n]? = some (.ok m)) : s.Serves n before m :=
  ⟨Engine.definitions_of_lookUp hlookUp, h.begun_eq hdone hfound, h.runs hdone hfound⟩

end Accounted

end System

/-! ## Triggers in any order of steps -/

/-- What triggers come to that arrive at an engine side by side, when all errands are done, whatever
the order of their steps and of those of the callers of the store.

Each trigger carries out the workflows that matched in the engine at which it arrived, as they were
then, and records one execution of each; no other execution is recorded.  What is asked of
collaborators is what the actions ask for that are begun, one after the other, each in the engine as
it is at that time.  The log gains the records that are kept, and interleaves those of the single
triggers.  Where recordings do not fail, a record is kept if the backend has a form for it, and that
is always so in memory.  If all are kept and each trigger finds one workflow, the log gains as many
records as there are triggers. -/
theorem triggers_interleaved (s : Engine) (callers : List Caller) (moves : List Move)
    (hdone : ((System.opening s callers).run moves).isDone = true) :
    let final := (System.opening s callers).run moves
    (∀ earlier v context later, moves = earlier ++ .trigger v context :: later →
      let before := (System.opening s callers).run earlier
      final.found[before.found.length]? = some (before.engine.lookUp v context) ∧
      ∀ m, before.engine.lookUp v context = .ok m →
        final.Serves before.found.length before.engine m) ∧
    (∀ f ∈ final.recorded, ∃ m, final.found[f.trigger]? = some (.ok m) ∧
      f.place < m.definitions.length) ∧
    (final.recorded.map fun f => f.record.id).Nodup ∧
    (∃ asked : List (Option Call),
      List.Forall₂ ((System.opening s callers).AsksAlong moves) final.actions asked ∧
      final.engine.journal = s.journal ++ asked.reduceOption) ∧
    ((∀ id, s.unrecordable? id = none) →
      (∀ w, .pass w ∈ moves → ∀ id, w.recordFailure.or (w.recordFailures id) = none) →
      (s.log.backend = .database → ∀ q ∈ s.log.records, Engine.Issued 0 s.issued q.id) →
      ∀ f ∈ final.recorded, f.fault = none ↔ s.log.backend.refusal? f.record = none) ∧
    ∃ added, final.engine.log = { s.log with records := s.log.records ++ added } ∧
      Interleaves ((List.range final.found.length).map fun n =>
        Schedule.keptRecords s.log.backend (final.recordedBy n)) added ∧
      ((∀ f ∈ final.recorded, f.fault = none) →
        added = final.recorded.map (fun f => s.log.backend.storedRecord f.record) ∧
        ((∀ x ∈ final.found, ∃ m d, x = .ok m ∧ m.definitions = [d]) →
          added.length = moves.countP Move.isTrigger)) := by
  intro final
  have haccounted : System.Accounted s final := (System.accounted_opening s callers).run moves
  have hperforms := haccounted.performs hdone
  have hothers : ∀ f ∈ final.recorded, ∃ m, final.found[f.trigger]? = some (.ok m) ∧
      f.place < m.definitions.length := by
    intro f hf
    obtain ⟨t, ht, hf⟩ := exists_mem_of_forall₂ hperforms f (haccounted.recorded.mem_iff.1 hf)
    rw [hf.trigger, hf.place]
    exact (Engine.mem_tasksOf ht).2
  obtain ⟨begun, asked, hactions, hasked, hjournal⟩ :=
    (System.opening s callers).exists_asked_run moves
  obtain rfl : final.actions = begun := hactions
  refine ⟨?_, hothers, haccounted.nodup, ⟨asked, hasked, hjournal⟩, ?_, _, haccounted.log, ?_, ?_⟩
  · rintro earlier v context later rfl before
    have hfound := (System.opening s callers).found_trigger earlier later v context
    refine ⟨hfound, fun m hm => haccounted.serves hdone hm ?_⟩
    rw [hm] at hfound
    exact hfound
  · intro hrecordable hpass hnumbered
    have hopening : (System.opening s callers).Faultless s.log.backend :=
      ⟨rfl, hrecordable, hnumbered, by simp [System.opening, System.recorded]⟩
    exact (hopening.run hpass).faults
  · refine interleaves_keptRecords _ fun f hf => ?_
    obtain ⟨m, hm, -⟩ := hothers f hf
    exact (List.getElem?_eq_some_iff.1 hm).1
  · intro hfaultless
    have hall : (final.recorded.filter fun f => f.fault.isNone) = final.recorded := by
      rw [List.filter_eq_self]
      intro f hf
      simp [hfaultless f hf]
    refine ⟨by rw [Schedule.keptRecords, hall], fun hone => ?_⟩
    calc (Schedule.keptRecords s.log.backend final.recorded).length
        = final.recorded.length := by rw [Schedule.keptRecords, hall, List.length_map]
      _ = (Engine.tasksOf final.found).length := by
        rw [haccounted.recorded.length_eq, hperforms.length_eq]
      _ = final.found.length := Engine.length_tasksOf hone
      _ = moves.countP Move.isTrigger := by
        rw [System.length_found_run]
        exact Nat.zero_add _

/-- An engine that keeps a workflow with two actions for failed payments, and one for failed
payments for the golden plan. -/
def Engine.attentive : Engine :=
  let s := ((empty .memory ⟨0, some 0⟩).createWorkflow (paymentDraft "Attend" 2 none)).2
  (s.createWorkflow (paymentDraft "Prefer" 1 (some "gold"))).2

/-- Two triggers between whose steps the first workflow is turned off and then deleted. -/
def System.disturbed : List Move :=
  let payment : Move := .trigger (.text "payment_failed") (.mapping Engine.basicPayment)
  [payment, .caller 0, .errand 0 false, payment, .errand 0 false, .caller 0, .caller 1] ++
    List.replicate 6 (.errand 1 false) ++ List.replicate 4 (.errand 0 false)

/-- Callers that turn the first workflow off and delete it. -/
def System.disturbers : List Caller :=
  [.waiting (.update "id0001" ⟨1, some 0⟩ { isActive := some (.bool false) }),
    .waiting (.delete "id0001")]

/-- The second workflow does not match.  Both triggers carry out the first as it was, and the log
gains two records, although that workflow is there no more. -/
theorem triggers_interleaved_disturbed :
    let final := (System.opening Engine.attentive System.disturbers).run System.disturbed
    final.isDone = true ∧ final.engine.repository.definitions.map (·.id) = ["id0002"] ∧
      (∃ d ∈ Engine.attentive.repository.definitions, d.id = "id0001" ∧
        (final.begun 0 0).map Prod.fst = d.actions) ∧
      final.engine.journal.length = 4 ∧ final.engine.log.records.length = 2 := by
  intro final
  have hdone : final.isDone = true := rfl
  obtain ⟨htriggers, -, -, -, hfaultless, added, hlog, -, hcount⟩ :=
    triggers_interleaved Engine.attentive System.disturbers System.disturbed hdone
  have hpass : ∀ w, .pass w ∉ System.disturbed := by simp [System.disturbed]
  have hkept : ∀ f ∈ final.recorded, f.fault = none := fun f hf =>
    (hfaultless (fun _ => rfl) (fun w hw => absurd hw (hpass w)) nofun f hf).2 rfl
  obtain ⟨m, m', d, d', other, hfound, hm, hm', hd, hid⟩ : ∃ m m' d d' other,
      final.found = [.ok m, .ok m'] ∧ m.definitions = [d] ∧ m'.definitions = [d'] ∧
        Engine.attentive.repository.definitions = [d, other] ∧ d.id = "id0001" :=
    ⟨_, _, _, _, _, rfl, rfl, rfl, rfl, rfl⟩
  have hone : ∀ x ∈ final.found, ∃ m d, x = .ok m ∧ m.definitions = [d] := by
    rw [hfound]
    simp [hm, hm']
  refine ⟨hdone, rfl, ⟨d, by simp [hd], hid, ?_⟩, rfl, ?_⟩
  · obtain ⟨hlookUp, hserves⟩ := htriggers [] _ _ _ rfl
    rw [hfound] at hlookUp
    have hbegun : final.begun 0 0 = _ := (hserves m (Option.some.inj hlookUp).symm).begun 0
    rw [hbegun, hm]
    simp [Function.comp_def]
  · have hlength : added.length = 2 := (hcount hkept).2 hone
    have hempty : Engine.attentive.log.records = [] := rfl
    rw [hlog, hempty, List.nil_append, hlength]

end Automation
