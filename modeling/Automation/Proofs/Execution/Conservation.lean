import Automation.Management
import Automation.Proofs.Execution.Counts
import Automation.Proofs.Execution.Listing

/-!
# Statistics conserve the log

The statistics are taken of the records that were triggered at an instant or later
(`Log.triggeredSince`), and all that they count is there.  The counts of the statuses, of the kinds
of events and of the kinds of actions each add up to what there is to count
(`Statistics.Conserves`), and a kind of action is told with its true counts exactly if it occurs
(`Statistics.TellsKinds`).  The order of the records changes nothing but the average duration, which
is a sum of doubles.

Not every log has statistics: timestamps may be in no order, kinds of actions in none either, and an
integer may be beyond the doubles.  A log has them whose timestamps carry offsets, whose kinds are
texts and whose durations are doubles (`Log.Regular`).
-/

namespace Automation

/-- The records of a log that were triggered at an instant or later. -/
def Log.triggeredSince (l : Log) (since : Option Timestamp) : List ExecutionRecord :=
  l.records.filter fun r => since.all fun t => !r.triggeredAt.before t

/-! ## What the statistics are taken of -/

/-- The filter that admits the records of an instant or later. -/
def ExecutionFilter.since (bound : Option Timestamp) : ExecutionFilter :=
  { start := bound.map Timestamp.toUtc }

theorem ExecutionFilter.selects_since (bound : Option Timestamp) :
    (since bound).selects = fun r => bound.all fun t => !r.triggeredAt.before t := by
  funext r
  cases bound <;> simp [selects, since, names_iff, Timestamp.before]

theorem Engine.statistics_eq_ok_iff {s : Engine} {since : Option Timestamp} {st : Statistics} :
    s.statistics since = .ok st ↔ s.listFailure = none ∧ ∃ f rs, sinceFilter since = .ok f ∧
      s.log.listing f = .ok rs ∧ Statistics.of s.repository.listing rs = .ok st := by
  simp only [statistics, Log.statistics, bind_eq_ok_iff, mapError_eq_ok_iff]
  cases hlist : s.listFailure with
  | some f => simp [checkListing, hlist]
  | none => simp [checkListing, hlist]

/-- Statistics that are given are taken of the records of an instant or later, in some order. -/
theorem Engine.of_statistics {s : Engine} {since : Option Timestamp} {st : Statistics}
    (h : s.statistics since = .ok st) :
    ∃ rs, rs.Perm (s.log.triggeredSince since) ∧
      Statistics.of s.repository.listing rs = .ok st := by
  obtain ⟨-, f, rs, hf, hrs, hst⟩ := statistics_eq_ok_iff.1 h
  simp only [sinceFilter, bind_eq_ok_iff, pure_eq_ok_iff] at hf
  obtain ⟨bound, hbound, rfl⟩ := hf
  obtain ⟨-, rfl⟩ := mapM_inUtc_eq_ok_iff.1 hbound
  have hperm : rs.Perm (s.log.records.filter (ExecutionFilter.since since).selects) :=
    Log.perm_of_listing hrs
  rw [ExecutionFilter.selects_since] at hperm
  exact ⟨rs, hperm, hst⟩

/-! ## Sums -/

theorem length_keyedOutcomes {results : List ActionResult} {outcomes : List (Key × Bool)}
    (h : keyedOutcomes results = .ok outcomes) : outcomes.length = results.length := by
  induction results generalizing outcomes with
  | nil =>
    cases h
    rfl
  | cons a results ih =>
    simp only [keyedOutcomes, List.mapM_cons, bind_eq_ok_iff, pure_eq_ok_iff] at h
    obtain ⟨_, -, rest, hrest, rfl⟩ := h
    rw [List.length_cons, List.length_cons, ih hrest]

theorem perm_of_sortByKey? {β : Type} {entries sorted : List (Key × β)}
    (h : sortByKey? entries = some sorted) : sorted.Perm entries := by
  rw [sortByKey?] at h
  split at h
  · cases h
    exact List.mergeSort_perm _ _
  · cases h

/-- The totals of a breakdown add up to the number of results, and of no kind are there more
successes than results. -/
theorem totals_of_actionBreakdown {results : List ActionResult} {counts : List ActionCounts}
    (h : actionBreakdown results = .ok counts) :
    (counts.map (·.total)).sum = results.length ∧ ∀ c ∈ counts, c.successful ≤ c.total := by
  simp only [actionBreakdown, bind_eq_ok_iff] at h
  obtain ⟨outcomes, houtcomes, hsorted⟩ := h
  split at hsorted
  · rename_i totals htotals
    cases hsorted
    have hperm := perm_of_sortByKey? htotals
    constructor
    · calc ((totals.map fun e => (⟨e.1, e.2.1, e.2.2⟩ : ActionCounts)).map (·.total)).sum
          = (totals.map fun e => e.2.1).sum := by rw [List.map_map]; rfl
        _ = ((actionTotals outcomes).map fun e => e.2.1).sum := (hperm.map _).sum_nat
        _ = outcomes.length := by
          rw [actionTotals, sum_gather Prod.fst rfl fun _ _ => rfl]
          exact Nat.zero_add _
        _ = results.length := length_keyedOutcomes houtcomes
    · intro c hc
      obtain ⟨e, he, rfl⟩ := List.mem_map.1 hc
      have hle : ∀ e ∈ actionTotals outcomes, e.2.2 ≤ e.2.1 := by
        refine forall_gather (P := fun n : Nat × Nat => n.2 ≤ n.1) le_rfl ?_ (by simp) outcomes
        intro o n hn
        show (if o.2 then n.2 + 1 else n.2) ≤ n.1 + 1
        split
        · exact Nat.succ_le_succ hn
        · exact Nat.le_succ_of_le hn
      exact hle e (hperm.mem_iff.1 he)
  · cases hsorted

/-- Statistics that lose nothing of the records and count nothing twice. -/
structure Statistics.Conserves (st : Statistics) (rs : List ExecutionRecord) : Prop where
  executions : st.executions = rs.length
  successful : st.successful = rs.countP fun r => r.status == .success
  mixed : st.mixed = rs.countP fun r => r.status == .mixed
  failed : st.failed = rs.countP fun r => r.status == .failed
  counters : st.successful + st.mixed + st.failed = st.executions
  byStatus : (st.byStatus.map (·.2)).sum = st.executions
  byEventType : (st.byEventType.map (·.2)).sum = st.executions
  /-- The totals of the kinds of actions add up to the number of results. -/
  results : (st.actions.map (·.total)).sum = (rs.map (·.results.length)).sum
  outcomes : ∀ c ∈ st.actions, c.total = c.successful + c.failed
  active : st.activeWorkflows ≤ st.workflows

/-- The breakdown of the statistics tells the true counts of the kinds of actions that occur. -/
structure Statistics.TellsKinds (st : Statistics) (rs : List ExecutionRecord) : Prop where
  occurs : ∀ k, (∃ c ∈ st.actions, c.actionType = .text k) ↔
    ∃ r ∈ rs, ∃ a ∈ r.results, a.kind? = some k
  counts : ∀ c ∈ st.actions, ∃ k, c.actionType = .text k ∧
    c.successful = ((allResults rs).countP fun a => a.kind? == some k && a.success) ∧
    c.failed = (allResults rs).countP fun a => a.kind? == some k && !a.success
  /-- No kind is told twice. -/
  nodup : (st.actions.map (·.actionType)).Nodup

namespace Statistics

variable {definitions : List Definition} {rs rs' : List ExecutionRecord} {st st' : Statistics}

theorem conserves_of (h : of definitions rs' = .ok st) (hperm : rs'.Perm rs) : st.Conserves rs := by
  simp only [of, bind_eq_ok_iff, pure_eq_ok_iff] at h
  obtain ⟨actions, hactions, average, -, rfl⟩ := h
  obtain ⟨htotal, hparts⟩ := totals_of_actionBreakdown hactions
  have hcounts : ∀ s : Status, counted (statusCounts rs') s = rs.countP fun r => r.status == s := by
    intro s
    rw [counted_statusCounts, hperm.countP_eq]
  have hsum : (rs.countP fun r => r.status == .success) + (rs.countP fun r => r.status == .mixed) +
      (rs.countP fun r => r.status == .failed) = rs'.length := by
    rw [Status.sum_countP, hperm.length_eq]
  refine ⟨hperm.length_eq, hcounts _, hcounts _, hcounts _, ?_, ?_, ?_, ?_, ?_,
    List.countP_le_length⟩
  · simp only [hcounts, hsum]
  · simp only [Status.all, List.map_cons, List.map_nil, List.sum_cons, List.sum_nil, hcounts,
      ← hsum]
    omega
  · have hzero : ((EventType.all.map fun t => (t, 0)).map fun e => e.2).sum = 0 := by decide
    simp only [eventCounts, tally]
    rw [sum_gather (fun n => n) rfl fun _ _ => rfl, hzero, List.length_map, Nat.zero_add]
  · have hlength : (allResults rs').length = (rs'.map (·.results.length)).sum := List.length_flatMap
    rw [htotal, hlength, (hperm.map _).sum_nat]
  · intro c hc
    have hle := hparts c hc
    rw [ActionCounts.failed]
    omega

theorem tellsKinds_of (h : of definitions rs' = .ok st) (hperm : rs'.Perm rs)
    (htexts : ∀ r ∈ rs, ∀ a ∈ r.results, ∃ k, a.kind? = some k) : st.TellsKinds rs := by
  have hresults : (allResults rs').Perm (allResults rs) := hperm.flatMap_right _
  have hall : ∀ a ∈ allResults rs', ∃ k, a.kind? = some k :=
    fun a ha => forall_allResults.2 htexts a (hresults.mem_iff.1 ha)
  simp only [of, bind_eq_ok_iff, pure_eq_ok_iff] at h
  obtain ⟨actions, hactions, average, -, rfl⟩ := h
  obtain ⟨kinds, hnodup, hmem, hbreakdown⟩ := actionBreakdown_eq hall
  obtain rfl := Except.ok.inj (hbreakdown.symm.trans hactions)
  have hsorted : (sortTexts kinds).Perm kinds := List.mergeSort_perm _ _
  refine ⟨?_, ?_, ?_⟩
  · intro k
    have hkinds : (∃ a ∈ allResults rs', a.kind? = some k) ↔
        ∃ r ∈ rs, ∃ a ∈ r.results, a.kind? = some k := by
      simp only [hresults.mem_iff]
      constructor
      · rintro ⟨a, ha, hk⟩
        obtain ⟨r, hr, ha⟩ := List.mem_flatMap.1 ha
        exact ⟨r, hr, a, ha, hk⟩
      · rintro ⟨r, hr, a, ha, hk⟩
        exact ⟨a, List.mem_flatMap.2 ⟨r, hr, ha⟩, hk⟩
    rw [← hkinds, ← hmem, ← hsorted.mem_iff]
    simp [countsOf]
  · intro c hc
    obtain ⟨k, -, rfl⟩ := List.mem_map.1 hc
    refine ⟨k, rfl, hresults.countP_eq _, ?_⟩
    have hsplit : (allResults rs').countP (fun a => a.kind? == some k) =
        (allResults rs').countP (fun a => a.kind? == some k && a.success) +
          (allResults rs').countP fun a => a.kind? == some k && !a.success := by
      rw [List.countP_eq_countP_filter_add _ _ (·.success), List.countP_filter, List.countP_filter]
    rw [← hresults.countP_eq]
    exact (congrArg (· - _) hsplit).trans (Nat.add_sub_cancel_left _ _)
  · rw [List.map_map]
    exact (hsorted.nodup_iff.2 hnodup).map fun k l hkl => Key.text.inj hkl

/-- The order of the records matters to the average duration only. -/
theorem eq_of_perm (h : of definitions rs = .ok st) (h' : of definitions rs' = .ok st')
    (hperm : rs.Perm rs') (htexts : ∀ r ∈ rs, ∀ a ∈ r.results, ∃ k, a.kind? = some k) :
    st' = { st with averageDuration := st'.averageDuration } := by
  have hbreakdown : actionBreakdown (allResults rs) = actionBreakdown (allResults rs') :=
    actionBreakdown_eq_of_perm (hperm.flatMap_right _) (forall_allResults.2 htexts)
  have hcounts : ∀ s : Status, counted (statusCounts rs) s = counted (statusCounts rs') s := by
    intro s
    rw [counted_statusCounts, counted_statusCounts, hperm.countP_eq]
  simp only [of, bind_eq_ok_iff, pure_eq_ok_iff] at h h'
  obtain ⟨actions, hactions, average, -, rfl⟩ := h
  obtain ⟨actions', hactions', average', -, rfl⟩ := h'
  obtain rfl := Except.ok.inj (hactions.symm.trans (hbreakdown.trans hactions'))
  simp only [hperm.length_eq, hcounts, recordRate_eq_of_perm hperm, eventCounts_eq_of_perm hperm,
    topWorkflows_eq_of_perm definitions hperm]

end Statistics

/-! ## Logs that have statistics -/

/-- A record whose timestamp carries an offset, whose kinds of actions are texts and whose duration
is a double. -/
structure ExecutionRecord.Regular (r : ExecutionRecord) : Prop where
  triggeredAt : r.triggeredAt.isNaive = false
  kinds : ∀ a ∈ r.results, ∃ k, a.kind? = some k
  totalDuration : ∃ x, r.totalDuration = .double x

/-- A log of regular records. -/
def Log.Regular (l : Log) : Prop := ∀ r ∈ l.records, r.Regular

theorem integerLimit_pos : 0 < Number.integerLimit := by decide +kernel

/-- A sum begins with the integer zero, and with a double it goes on as a double. -/
theorem zero_add?_double (x : Double) :
    Number.add? (.int 0) (.double x) = some (.double ((Double.ofInt 0).add x)) := by
  have hzero : Number.toDouble? (.int 0) = some (Double.ofInt 0) := by
    simp only [Number.toDouble?, Int.natAbs_zero, integerLimit_pos, if_true]
  simp only [Number.add?, hzero]
  rfl

theorem sum_doubles {xs : List Number} (h : ∀ x ∈ xs, ∃ y, x = .double y) (y : Double) :
    ∃ z, xs.foldlM Number.add? (.double y) = some (.double z) := by
  induction xs generalizing y with
  | nil => exact ⟨y, rfl⟩
  | cons x xs ih =>
    obtain ⟨d, rfl⟩ := h x List.mem_cons_self
    exact ih (fun x hx => h x (List.mem_cons_of_mem _ hx)) (y.add d)

theorem recordAverage_of_doubles {rs : List ExecutionRecord}
    (h : ∀ r ∈ rs, ∃ x, r.totalDuration = .double x) : ∃ x, recordAverage rs = .ok x := by
  cases rs with
  | nil => exact ⟨.zero, rfl⟩
  | cons r rs =>
    obtain ⟨d, hd⟩ := h r List.mem_cons_self
    have hrest : ∀ x ∈ rs.map (·.totalDuration), ∃ y, x = .double y := by
      intro x hx
      obtain ⟨q, hq, rfl⟩ := List.mem_map.1 hx
      exact h q (List.mem_cons_of_mem r hq)
    obtain ⟨z, hz⟩ := sum_doubles hrest ((Double.ofInt 0).add d)
    have hsum : (r.totalDuration :: rs.map (·.totalDuration)).foldlM Number.add? (.int 0) =
        some (.double z) := by
      rw [hd, List.foldlM_cons, zero_add?_double]
      exact hz
    refine ⟨(z.divNat (r.totalDuration :: rs.map (·.totalDuration)).length).roundHundredths, ?_⟩
    rw [recordAverage, List.map_cons, averageDuration?, hsum]
    rfl

theorem Statistics.exists_of {definitions : List Definition} {rs : List ExecutionRecord}
    (h : ∀ r ∈ rs, r.Regular) : ∃ st, of definitions rs = .ok st := by
  obtain ⟨kinds, -, -, hbreakdown⟩ :=
    actionBreakdown_eq (forall_allResults.2 fun r hr => (h r hr).kinds)
  obtain ⟨x, hx⟩ := recordAverage_of_doubles fun r hr => (h r hr).totalDuration
  simp only [of, hbreakdown, hx]
  exact ⟨_, rfl⟩

/-- A regular log is listed for every filter whose bounds can be told in UTC. -/
theorem Log.Regular.listing {l : Log} (h : l.Regular) {f : ExecutionFilter} (hf : f.Convertible) :
    ∃ rs, l.listing f = .ok rs ∧ ∀ r ∈ rs, r.Regular := by
  refine ⟨_, listing_of_aware (fun r hr => (h r hr).triggeredAt) hf, fun r hr => h r ?_⟩
  exact List.mem_reverse.1 (List.mem_of_mem_filter ((List.mergeSort_perm _ _).mem_iff.1 hr))

namespace Engine

theorem conserves_of_statistics {s : Engine} {since : Option Timestamp} {st : Statistics}
    (h : s.statistics since = .ok st) : st.Conserves (s.log.triggeredSince since) := by
  obtain ⟨rs, hperm, hof⟩ := of_statistics h
  exact Statistics.conserves_of hof hperm

theorem exists_statistics {s : Engine} (h : s.log.Regular) (hlist : s.listFailure = none)
    {since : Option Timestamp} (hsince : ∀ t ∈ since, t.Convertible) :
    ∃ st, s.statistics since = .ok st := by
  have hf : sinceFilter since = .ok (ExecutionFilter.since since) := by
    rw [sinceFilter, mapM_inUtc_eq_ok_iff.2 ⟨hsince, rfl⟩]
    rfl
  have hconvertible : (ExecutionFilter.since since).Convertible := by
    refine ⟨fun t ht => ?_, nofun⟩
    obtain ⟨u, hu, rfl⟩ := Option.mem_map.1 ht
    exact (hsince u hu).toUtc
  obtain ⟨rs, hrs, hregular⟩ := h.listing hconvertible
  obtain ⟨st, hst⟩ := Statistics.exists_of hregular
  exact ⟨st, statistics_eq_ok_iff.2 ⟨hlist, _, rs, hf, hrs, hst⟩⟩

/-- The statistics of an engine conserve its log.

Whatever the store and the log, statistics that are given count every record that was triggered at
the instant or later, and every result of its actions, exactly once.  If the kinds of actions are
texts, each that occurs is told with its true counts, and the records may stand in any order without
a change but to the average duration.  A regular log has statistics if the store can be listed. -/
theorem statistics_conserve (s : Engine) (since : Option Timestamp) :
    (∀ st, s.statistics since = .ok st → st.Conserves (s.log.triggeredSince since)) ∧
    ((∀ r ∈ s.log.records, ∀ a ∈ r.results, ∃ k, a.kind? = some k) →
      (∀ st, s.statistics since = .ok st → st.TellsKinds (s.log.triggeredSince since)) ∧
      ∀ records, records.Perm s.log.records → ∀ st st', s.statistics since = .ok st →
        { s with log := { s.log with records } }.statistics since = .ok st' →
        st' = { st with averageDuration := st'.averageDuration }) ∧
    (s.log.Regular → s.listFailure = none → (∀ t ∈ since, t.Convertible) →
      ∀ records, records.Perm s.log.records →
        ∃ st, { s with log := { s.log with records } }.statistics since = .ok st) := by
  refine ⟨fun st => conserves_of_statistics, fun htexts => ⟨?_, ?_⟩, ?_⟩
  · intro st hst
    obtain ⟨rs, hperm, hof⟩ := of_statistics hst
    exact Statistics.tellsKinds_of hof hperm fun r hr => htexts r (List.mem_of_mem_filter hr)
  · intro records hrecords st st' hst hst'
    obtain ⟨rs, hperm, hof⟩ := of_statistics hst
    obtain ⟨rs', hperm', hof'⟩ := of_statistics hst'
    have hsame : rs.Perm rs' := hperm.trans ((hrecords.symm.filter _).trans hperm'.symm)
    refine Statistics.eq_of_perm hof hof' hsame fun r hr => htexts r ?_
    exact List.mem_of_mem_filter (hperm.mem_iff.1 hr)
  · intro hregular hlist hsince records hrecords
    have hpermuted : ({ s with log := { s.log with records } } : Engine).log.Regular :=
      fun r hr => hregular r (hrecords.mem_iff.1 hr)
    exact exists_statistics hpermuted hlist hsince

/-- A record of a failed payment, some microseconds after the start, with the kinds of its actions
and whether each succeeded. -/
def recordAt (time : Int) (workflowId : String) (outcomes : List (String × Bool)) :
    ExecutionRecord :=
  let results : List ActionResult := outcomes.map fun (kind, success) =>
    { actionType := .text kind
      success := success
      duration := .zero
      error := if success then .null else .text "refused"
      output := [] }
  { id := "run" ++ toString time
    workflowId := workflowId
    eventType := .paymentFailed
    triggeredAt := ⟨time, some 0⟩
    status := .ofResults results
    results := results
    totalDuration := .double .zero }

theorem regular_recordAt (time : Int) (workflowId : String) (outcomes : List (String × Bool)) :
    (recordAt time workflowId outcomes).Regular := by
  refine ⟨rfl, fun a ha => ?_, ⟨_, rfl⟩⟩
  obtain ⟨outcome, -, rfl⟩ := List.mem_map.1 ha
  exact ⟨outcome.1, rfl⟩

/-- An engine that keeps one workflow, with records of it and of one that was deleted. -/
def collecting : Engine :=
  let s := ((empty .memory ⟨0, some 0⟩).createWorkflow
    { name := .text "Collect", eventType := .text "payment_failed"
      actions := .list [.mapping [("type", .text "webhook")]] }).2
  { s with
    log := ⟨.memory,
      [recordAt 1 "id0001" [("webhook", true), ("webhook", false)],
        recordAt 3 "id0009" [("send_email", true)],
        recordAt 2 "id0001" [("webhook", true), ("send_email", true)]]⟩ }

theorem regular_collecting : collecting.log.Regular := by
  intro r hr
  obtain rfl | rfl | rfl : r = _ ∨ r = _ ∨ r = _ := by simpa [collecting] using hr
  all_goals exact regular_recordAt _ _ _

/-- Three records have five results, and webhooks are among them. -/
theorem statistics_conserve_collecting :
    collecting.log.Regular ∧ collecting.listFailure = none ∧
      ∃ st, collecting.statistics none = .ok st ∧ st.executions = 3 ∧ st.successful = 2 ∧
        st.mixed = 1 ∧ (st.actions.map (·.total)).sum = 5 ∧
        ∃ c ∈ st.actions, c.actionType = .text "webhook" := by
  obtain ⟨hconserves, htexts, hexists⟩ := statistics_conserve collecting none
  obtain ⟨st, hst⟩ := hexists regular_collecting rfl nofun collecting.log.records (.refl _)
  obtain ⟨htells, -⟩ := htexts fun r hr => (regular_collecting r hr).kinds
  have hconserved := hconserves st hst
  refine ⟨regular_collecting, rfl, st, hst, hconserved.executions, ?_, ?_, hconserved.results, ?_⟩
  · rw [hconserved.successful]
    decide +kernel
  · rw [hconserved.mixed]
    decide +kernel
  · exact ((htells st hst).occurs "webhook").2
      ⟨_, List.mem_cons_self, _, List.mem_cons_self, rfl⟩

end Engine

end Automation
