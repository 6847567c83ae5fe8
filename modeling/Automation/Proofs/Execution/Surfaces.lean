import Automation.Proofs.Execution.Conservation
import Mathlib.Data.List.Dedup

/-!
# What is read of the log agrees

The log in memory is read in four ways: the statistics group its records by workflow, the metrics
scan it for one workflow, the history selects and sorts the records and cuts out a page.  They count
the same records (`Engine.surfaces_agree`).

When a workflow was last executed is a maximum of timestamps.  The listing that it is taken of has
the newest record first, so the maximum is found at its head (`Timestamp.latest?_eq_head?`), which
also is the head of the first page of the history.

The workflows executed most often are the leaders of a strict order (`Leaders`), for no two of them
have the same identifier.
-/

namespace Automation

/-! ## The latest timestamp -/

theorem Timestamp.foldl_latest {ts : List Timestamp} {t : Timestamp}
    (h : ∀ u ∈ ts, t.before u = false) :
    ts.foldl (fun latest u => if latest.before u then u else latest) t = t := by
  induction ts with
  | nil => rfl
  | cons u ts ih =>
    obtain ⟨hu, hrest⟩ := List.forall_mem_cons.1 h
    rw [List.foldl_cons, hu]
    exact ih hrest

/-- Where the latest come first the first one is the latest. -/
theorem Timestamp.latest?_eq_head? {ts : List Timestamp}
    (h : ts.Pairwise fun t u => t.before u = false) : latest? ts = ts.head? := by
  cases ts with
  | nil => rfl
  | cons t ts => rw [latest?, foldl_latest (List.pairwise_cons.1 h).1, List.head?_cons]

namespace Log

variable {l : Log} {f : ExecutionFilter} {rs : List ExecutionRecord}

theorem newerFirst_iff {q r : ExecutionRecord} :
    newerFirst q r = true ↔ r.triggeredAt.utcClock ≤ q.triggeredAt.utcClock := by
  simp [newerFirst, Timestamp.before]

theorem newerFirst_trans (p q r : ExecutionRecord) (hpq : newerFirst p q = true)
    (hqr : newerFirst q r = true) : newerFirst p r = true := by
  rw [newerFirst_iff] at *
  exact hqr.trans hpq

theorem newerFirst_total (q r : ExecutionRecord) :
    (newerFirst q r || newerFirst r q) = true := by
  rw [Bool.or_eq_true, newerFirst_iff, newerFirst_iff]
  exact Int.le_total _ _

theorem pairwise_of_listing (h : l.listing f = .ok rs) :
    rs.Pairwise fun q r => q.triggeredAt.before r.triggeredAt = false := by
  have hsorted : ((l.selected f).mergeSort newerFirst).Pairwise
      fun q r => newerFirst q r = true :=
    List.pairwise_mergeSort newerFirst_trans newerFirst_total _
  rw [eq_of_listing h]
  exact hsorted.imp fun hqr => by simpa [newerFirst] using hqr

/-- The latest timestamp of a listing is that of its first record. -/
theorem latest?_of_listing (h : l.listing f = .ok rs) :
    Timestamp.latest? (rs.map (·.triggeredAt)) = rs.head?.map (·.triggeredAt) := by
  rw [Timestamp.latest?_eq_head? (List.pairwise_map.2 (pairwise_of_listing h)), List.head?_map]

end Log

/-! ## Pages in memory -/

/-- A request for a page, of a size that is allowed, of all records or of those of a workflow or a
status. -/
structure HistoryRequest.Simple (q : HistoryRequest) : Prop where
  page : 1 ≤ q.page
  limit : 1 ≤ q.limit
  size : q.limit ≤ maxPageSize
  status : q.filter.status = .null ∨ ∃ s : Status, q.filter.status = .text s.name
  eventType : q.filter.eventType = .null
  start : q.filter.start = none
  stop : q.filter.stop = none

theorem HistoryRequest.checkStatus_of_known {v : Value}
    (h : v = .null ∨ ∃ s : Status, v = .text s.name) : checkStatus v = .ok v := by
  obtain rfl | ⟨s, rfl⟩ := h
  · rfl
  · cases s <;> rfl

theorem HistoryRequest.eq_of_checkStatus {v v' : Value} (h : checkStatus v = .ok v') : v' = v := by
  cases v with
  | text name =>
    rw [checkStatus] at h
    split at h <;> cases h
    rfl
  | null =>
    cases h
    rfl
  | _ => cases h

theorem HistoryRequest.Simple.check_eq {q : HistoryRequest} (h : q.Simple) :
    q.check = .ok q.filter := by
  have hevent : checkEvent q.filter.eventType = .ok q.filter.eventType := by
    rw [h.eventType]
    rfl
  have hwindow : checkWindow q.filter.start q.filter.stop = .ok () := by
    rw [h.start]
    rfl
  have hpage := h.page
  have hlimit := h.limit
  have hsize := h.size
  rw [check, if_neg (by omega), if_neg (by omega), checkStatus_of_known h.status, hevent, hwindow]
  rfl

/-- A request that leaves the kind of event open keeps its filter. -/
theorem HistoryRequest.eq_of_check {q : HistoryRequest} {f : ExecutionFilter}
    (h : q.check = .ok f) (hevent : q.filter.eventType = .null) : f = q.filter := by
  rw [check] at h
  split at h
  · cases h
  · split at h
    · cases h
    · simp only [bind_eq_ok_iff, pure_eq_ok_iff] at h
      obtain ⟨status, hstatus, event, hchecked, _, -, rfl⟩ := h
      rw [hevent] at hchecked
      cases hchecked
      rw [eq_of_checkStatus hstatus, ← hevent]

/-- In memory a page is cut out of a listing. -/
theorem Log.history_eq_ok_iff {l : Log} (hmemory : l.backend = .memory) {q : HistoryRequest}
    {p : HistoryPage} : l.history q = .ok p ↔ ∃ f rs, q.check = .ok f ∧ l.listing f = .ok rs ∧
      p = { data := slice rs ((q.page - 1) * q.limit) ((q.page - 1) * q.limit + q.limit)
            total := rs.length
            page := q.page
            limit := q.limit } := by
  rw [history]
  cases hcheck : q.check with
  | error e => simp [bind, Except.bind]
  | ok f =>
    cases hlisting : l.listing f with
    | error e =>
      simp [bind, Except.bind, query, hmemory, hlisting, throw, throwThe, MonadExceptOf.throw]
    | ok rs => simp [bind, Except.bind, query, hmemory, hlisting, pure, Except.pure, eq_comm]

/-! ## What each of the ways counts -/

theorem ofWorkflow_eq_filter (rs : List ExecutionRecord) (id : String) :
    rs.filter ({ workflowId := .text id } : ExecutionFilter).selects = ofWorkflow rs id := by
  refine List.filter_congr fun r _ => Bool.eq_iff_iff.2 ?_
  simp [ExecutionFilter.selects, ExecutionFilter.names_iff, @eq_comm _ id]

theorem Status.name_injective {s t : Status} (h : s.name = t.name) : s = t := by
  cases s <;> cases t <;> first | rfl | exact absurd h (by decide)

theorem selects_status (status : Status) :
    ({ status := .text status.name } : ExecutionFilter).selects = fun r => r.status == status := by
  funext r
  have hname : status.name = r.status.name ↔ r.status = status :=
    ⟨fun h => Status.name_injective h.symm, fun h => by rw [h]⟩
  rw [Bool.eq_iff_iff]
  simp [ExecutionFilter.selects, ExecutionFilter.names_iff, hname]

/-- The number of records of a status, as the statistics tell it. -/
def Statistics.counter (st : Statistics) : Status → Nat
  | .success => st.successful
  | .mixed => st.mixed
  | .failed => st.failed

theorem Statistics.Conserves.counter {st : Statistics} {rs : List ExecutionRecord}
    (h : st.Conserves rs) (status : Status) :
    st.counter status = rs.countP fun r => r.status == status := by
  cases status with
  | success => exact h.successful
  | mixed => exact h.mixed
  | failed => exact h.failed

namespace Engine

variable {s : Engine} {q : HistoryRequest} {p : HistoryPage}

theorem triggeredSince_none (l : Log) : l.triggeredSince none = l.records := by
  simp [Log.triggeredSince]

/-- The total of a history in memory is the number of records that the filter selects. -/
theorem total_of_history (hmemory : s.log.backend = .memory)
    (hevent : q.filter.eventType = .null) (h : s.history q = .ok p) :
    ∃ rs, s.log.listing q.filter = .ok rs ∧ p.total = rs.length ∧
      p.total = (s.log.records.filter q.filter.selects).length ∧
      (q.page = 1 → p.data.head? = rs.head?) := by
  obtain ⟨f, rs, hcheck, hlisting, rfl⟩ :=
    (Log.history_eq_ok_iff hmemory).1 (mapError_eq_ok_iff.1 h)
  obtain ⟨hpage, hlimit, -⟩ := HistoryRequest.of_check hcheck
  obtain rfl := HistoryRequest.eq_of_check hcheck hevent
  refine ⟨rs, hlisting, rfl, (Log.perm_of_listing hlisting).length_eq, ?_⟩
  intro hfirst
  have hskip : (q.page - 1) * q.limit = 0 := by simp [hfirst]
  show (slice rs ((q.page - 1) * q.limit) ((q.page - 1) * q.limit + q.limit)).head? = rs.head?
  rw [slice_eq rs (by omega) (by omega), hskip, Int.toNat_zero, List.drop_zero, List.head?_take,
    if_neg (by omega)]

/-- The metrics of a workflow are taken of the listing of its records. -/
theorem of_metrics {id : String} {m : Metrics} (h : s.metrics id = .ok m) :
    ∃ rs, s.log.listing { workflowId := .text id } = .ok rs ∧
      rs.Perm (ofWorkflow s.log.records id) ∧ m.executions = rs.length ∧
      m.successRate = recordRate rs ∧
      m.lastExecuted = rs.head?.map (·.triggeredAt) := by
  simp only [metrics, Log.metrics, Metrics.of, bind_eq_ok_iff, mapError_eq_ok_iff,
    pure_eq_ok_iff] at h
  obtain ⟨_, -, rs, hlisting, average, -, rfl⟩ := h
  have hperm := Log.perm_of_listing hlisting
  rw [ofWorkflow_eq_filter] at hperm
  exact ⟨rs, hlisting, hperm, rfl, rfl, Log.latest?_of_listing hlisting⟩

end Engine

/-! ## The leaders -/

/-- A workflow has more records than another, or as many and a lesser identifier. -/
def Outranks (rs : List ExecutionRecord) (a b : String) : Prop :=
  (ofWorkflow rs b).length < (ofWorkflow rs a).length ∨
    (ofWorkflow rs a).length = (ofWorkflow rs b).length ∧ a < b

/-- The workflows that lead all that have records. -/
structure Leaders (rs : List ExecutionRecord) (ids : List String) : Prop where
  length : ids.length = min topLimit (rs.map (·.workflowId)).dedup.length
  nodup : ids.Nodup
  executed : ∀ id ∈ ids, id ∈ rs.map (·.workflowId)
  ordered : ids.Pairwise (Outranks rs)
  /-- No workflow that is left out outranks one that is not. -/
  ahead : ∀ id ∈ rs.map (·.workflowId), id ∉ ids → ∀ leader ∈ ids, Outranks rs leader id

theorem outranks_of_ne {rs : List ExecutionRecord} {a b : String} (hne : a ≠ b)
    (h : ranksBefore rs a b = true) : Outranks rs a b := by
  rcases ranksBefore_iff.1 h with hmore | ⟨hsame, hle⟩
  · exact .inl hmore
  · refine .inr ⟨hsame, String.not_le.1 fun hge => hne (String.le_antisymm hle hge)⟩

theorem leaders_of_topWorkflows (definitions : List Definition) (rs : List ExecutionRecord) :
    Leaders rs ((topWorkflows definitions rs).map (·.workflowId)) := by
  obtain ⟨ids, hnodup, hmem, htop⟩ := topWorkflows_eq definitions rs
  have hperm : (ids.mergeSort (ranksBefore rs)).Perm ids := List.mergeSort_perm _ _
  have hdistinct : (ids.mergeSort (ranksBefore rs)).Nodup := hperm.nodup_iff.2 hnodup
  have hdedup : ids.Perm (rs.map (·.workflowId)).dedup := by
    rw [List.perm_ext_iff_of_nodup hnodup (List.nodup_dedup _)]
    intro id
    rw [hmem, List.mem_dedup]
  have hranked : (ids.mergeSort (ranksBefore rs)).Pairwise (Outranks rs) := by
    refine ((List.pairwise_mergeSort ranksBefore_trans ranksBefore_total ids).and hdistinct).imp ?_
    rintro a b ⟨hab, hne⟩
    exact outranks_of_ne hne hab
  have hids : (topWorkflows definitions rs).map (·.workflowId) =
      (ids.mergeSort (ranksBefore rs)).take topLimit := by
    rw [htop, List.map_map]
    exact List.map_id _
  rw [hids]
  refine ⟨?_, hdistinct.sublist (List.take_sublist _ _), ?_, hranked.take, ?_⟩
  · rw [List.length_take, hperm.length_eq, hdedup.length_eq]
  · intro id hid
    exact (hmem id).1 (hperm.mem_iff.1 (List.mem_of_mem_take hid))
  · intro id hid hout leader hleader
    -- What is not among the first is among the rest, and the ranking has the rest later.
    have hrest : id ∈ (ids.mergeSort (ranksBefore rs)).drop topLimit := by
      have hall : id ∈ ids.mergeSort (ranksBefore rs) := hperm.mem_iff.2 ((hmem id).2 hid)
      rw [← List.take_append_drop topLimit (ids.mergeSort (ranksBefore rs))] at hall
      exact (List.mem_append.1 hall).resolve_left hout
    rw [← List.take_append_drop topLimit (ids.mergeSort (ranksBefore rs))] at hranked
    exact (List.pairwise_append.1 hranked).2.2 leader hleader id hrest

namespace Engine

variable {s : Engine} {st : Statistics} {e : TopWorkflow}

/-- The leaders are those of the whole log, whatever the order of its records. -/
theorem leaders_of_statistics (h : s.statistics none = .ok st) :
    Leaders s.log.records (st.top.map (·.workflowId)) ∧
      ∀ e ∈ st.top, e.count = (ofWorkflow s.log.records e.workflowId).length ∧
        e.successRate = recordRate (ofWorkflow s.log.records e.workflowId) := by
  obtain ⟨rs, hperm, hof⟩ := of_statistics h
  rw [triggeredSince_none] at hperm
  simp only [Statistics.of, bind_eq_ok_iff, pure_eq_ok_iff] at hof
  obtain ⟨actions, -, average, -, rfl⟩ := hof
  rw [topWorkflows_eq_of_perm s.repository.listing hperm]
  refine ⟨leaders_of_topWorkflows _ _, fun e he => ?_⟩
  obtain ⟨ids, -, -, htop⟩ := topWorkflows_eq s.repository.listing s.log.records
  rw [htop] at he
  obtain ⟨id, -, rfl⟩ := List.mem_map.1 he
  exact ⟨rfl, rfl⟩

/-- The metrics of a workflow count all its records. -/
theorem counts_of_metrics {id : String} {m : Metrics} (h : s.metrics id = .ok m) :
    m.executions = (ofWorkflow s.log.records id).length ∧
      m.successRate = recordRate (ofWorkflow s.log.records id) := by
  obtain ⟨rs, -, hperm, hexecutions, hrate, -⟩ := of_metrics h
  exact ⟨hexecutions.trans hperm.length_eq, hrate.trans (recordRate_eq_of_perm hperm)⟩

theorem exists_metrics (h : s.log.Regular) {id : String} {d : Definition}
    (hstored : s.repository.get? id = some d) : ∃ m, s.metrics id = .ok m := by
  obtain ⟨rs, hlisting, hregular⟩ := h.listing (f := { workflowId := .text id }) ⟨nofun, nofun⟩
  obtain ⟨x, hx⟩ := recordAverage_of_doubles fun r hr => (hregular r hr).totalDuration
  have hmetrics : ∃ m, s.log.metrics id = .ok m := by
    simp only [Log.metrics, Metrics.of, hlisting, bind, Except.bind, hx]
    exact ⟨_, rfl⟩
  obtain ⟨m, hm⟩ := hmetrics
  refine ⟨m, ?_⟩
  rw [metrics, Store.get, hstored, hm]
  rfl

theorem exists_history (hmemory : s.log.backend = .memory) (h : s.log.Regular)
    {q : HistoryRequest} (hq : q.Simple) : ∃ p, s.history q = .ok p := by
  have hconvertible : q.filter.Convertible := by
    refine ⟨fun t ht => ?_, fun t ht => ?_⟩
    · rw [hq.start] at ht
      cases ht
    · rw [hq.stop] at ht
      cases ht
  obtain ⟨rs, hlisting, -⟩ := h.listing hconvertible
  have hpage := (Log.history_eq_ok_iff hmemory).2 ⟨_, rs, hq.check_eq, hlisting, rfl⟩
  exact ⟨_, mapError_eq_ok_iff.2 hpage⟩

/-- Whatever is read of a log in memory agrees.

For every store and every log, wherever the readings are given: one of the workflows executed most
often has as many executions in the statistics as in its metrics and in its history, and the same
success rate; the statistics count as many executions as the history has records, of each status
too; a workflow was last executed when the first record of its history was triggered, and never if
there is none; and the workflows executed most often are the leaders of all that have records.  All
these readings are given if the log is regular. -/
theorem surfaces_agree (s : Engine) (hmemory : s.log.backend = .memory) :
    (∀ st, s.statistics none = .ok st →
      Leaders s.log.records (st.top.map (·.workflowId)) ∧
      (∀ e ∈ st.top,
        (∀ m, s.metrics e.workflowId = .ok m →
          e.count = m.executions ∧ e.successRate = m.successRate) ∧
        ∀ q p, q.filter = { workflowId := .text e.workflowId } → s.history q = .ok p →
          e.count = p.total) ∧
      (∀ q p, q.filter = {} → s.history q = .ok p → st.executions = p.total) ∧
      ∀ status q p, q.filter = { status := .text status.name } → s.history q = .ok p →
        st.counter status = p.total) ∧
    (∀ id m q p, s.metrics id = .ok m → q.filter = { workflowId := .text id } → q.page = 1 →
      s.history q = .ok p →
      m.lastExecuted = p.data.head?.map (·.triggeredAt) ∧
        (m.lastExecuted = none ↔ p.total = 0)) ∧
    (s.log.Regular →
      (s.listFailure = none → ∃ st, s.statistics none = .ok st) ∧
      (∀ id d, s.repository.get? id = some d → ∃ m, s.metrics id = .ok m) ∧
      ∀ q : HistoryRequest, q.Simple → ∃ p, s.history q = .ok p) := by
  refine ⟨fun st hst => ?_, ?_, fun hregular => ⟨?_, ?_, ?_⟩⟩
  · obtain ⟨hleaders, htop⟩ := leaders_of_statistics hst
    have hconserves := conserves_of_statistics hst
    rw [triggeredSince_none] at hconserves
    refine ⟨hleaders, fun e he => ⟨fun m hm => ?_, fun q p hq hp => ?_⟩, fun q p hq hp => ?_,
      fun status q p hq hp => ?_⟩
    · obtain ⟨hcount, hrate⟩ := htop e he
      obtain ⟨hexecutions, hrate'⟩ := counts_of_metrics hm
      exact ⟨hcount.trans hexecutions.symm, hrate.trans hrate'.symm⟩
    · obtain ⟨rs, -, -, htotal, -⟩ := total_of_history hmemory (by rw [hq]) hp
      rw [htotal, hq, ofWorkflow_eq_filter, (htop e he).1]
    · obtain ⟨rs, -, -, htotal, -⟩ := total_of_history hmemory (by rw [hq]) hp
      have hall : s.log.records.filter ({} : ExecutionFilter).selects = s.log.records :=
        List.filter_eq_self.2 fun _ _ => rfl
      rw [htotal, hq, hall, hconserves.executions]
    · obtain ⟨rs, -, -, htotal, -⟩ := total_of_history hmemory (by rw [hq]) hp
      rw [htotal, hq, selects_status, ← List.countP_eq_length_filter, hconserves.counter]
  · intro id m q p hm hq hpage hp
    obtain ⟨rs, hlisting, -, -, -, hlast⟩ := of_metrics hm
    obtain ⟨rs', hlisting', htotal, -, hhead⟩ := total_of_history hmemory (by rw [hq]) hp
    rw [hq] at hlisting'
    obtain rfl := Except.ok.inj (hlisting.symm.trans hlisting')
    rw [hlast, hhead hpage, htotal]
    refine ⟨rfl, ?_⟩
    cases rs <;> simp
  · exact fun hlist => exists_statistics hregular hlist nofun
  · exact fun id d hstored => exists_metrics hregular hstored
  · exact fun q hq => exists_history hmemory hregular hq

/-- Two workflows have records, and the one that is still stored has metrics and a history. -/
theorem surfaces_agree_collecting :
    collecting.log.backend = .memory ∧ collecting.log.Regular ∧
      ∃ st m p, collecting.statistics none = .ok st ∧ collecting.metrics "id0001" = .ok m ∧
        collecting.history { filter := { workflowId := .text "id0001" } } = .ok p ∧
        (st.top.map (·.workflowId)).length = 2 ∧
        m.lastExecuted = p.data.head?.map (·.triggeredAt) := by
  obtain ⟨hstatistics, hmetrics, hregular⟩ := surfaces_agree collecting rfl
  obtain ⟨hexists, hexists', hexists''⟩ := hregular regular_collecting
  obtain ⟨st, hst⟩ := hexists rfl
  obtain ⟨m, hm⟩ := hexists' "id0001" _ rfl
  obtain ⟨p, hp⟩ := hexists'' { filter := { workflowId := .text "id0001" } }
    ⟨by decide, by decide, by decide, .inl rfl, rfl, rfl, rfl⟩
  refine ⟨rfl, regular_collecting, st, m, p, hst, hm, hp, ?_, (hmetrics _ m _ p hm rfl rfl hp).1⟩
  rw [(hstatistics st hst).1.length]
  decide +kernel

end Engine

end Automation
