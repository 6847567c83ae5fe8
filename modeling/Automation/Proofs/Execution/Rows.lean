import Automation.Execution.Log
import Automation.Proofs.Workflow.Rows

/-!
# What rows of executions are read as

A record goes through a row when the database keeps it, and what is read of the row is the record
with its results and its times in the form of the database (`ExecutionRow.written_ofRecord`).  So
the log can be told without rows (`Log.append_eq`).

A filter is tried in memory field by field, and in the database as the conditions of a query on the
columns of rows.  Both come to the same for every record once the bounds are told in UTC
(`ExecutionFilter.clauses_bind`), so the log can be told with one check (`Log.wanted_eq`,
`Log.query_eq`).
-/

namespace Automation

/-! ## Results -/

/-- A number as the database keeps it: a double. -/
def Number.flatten (x : Number) : Double :=
  match x.toDouble? with
  | some y => y.flatten
  | none => .nan

namespace ActionResult

/-- Whether the database can keep a result. -/
def isStorable (a : ActionResult) : Bool :=
  a.actionType.isStorable && a.error.isStorable && entriesStorable a.output

/-- A result as the database keeps it. -/
def flatten (a : ActionResult) : ActionResult :=
  { a with
    actionType := a.actionType.flatten
    duration := a.duration.flatten
    error := a.error.flatten
    output := a.output.flatten }

@[simp] theorem success_flatten (a : ActionResult) : a.flatten.success = a.success := rfl

@[simp] theorem actionType_flatten (a : ActionResult) :
    a.flatten.actionType = a.actionType.flatten := rfl

theorem entriesStorable_toMapping (a : ActionResult) :
    entriesStorable a.toMapping = a.isStorable := by
  simp [toMapping, entriesStorable, Key.isStorable, Value.isStorable, isStorable, Bool.and_assoc]

/-- A duration of zero counts as absent, and zero is what stands for an absent one. -/
theorem orElse_float (x : Double) :
    (Value.float x).orElse (.float .zero) = .float x.flatten := by
  rw [Value.orElse, Double.flatten]
  cases h : x.isZero <;> simp [Value.truthy, h]

theorem ofMapping_flatten (a : ActionResult) : ofMapping a.toMapping.flatten = .ok a.flatten := by
  have houtput : (a.toMapping.flatten).getD "output" = .mapping a.output.flatten := rfl
  have hduration : (a.toMapping.flatten).getD "duration_ms" = .float a.duration := rfl
  have htype : required a.toMapping.flatten "action_type" = .ok a.actionType.flatten := rfl
  have hsuccess : required a.toMapping.flatten "success" = .ok (.bool a.success) := rfl
  rw [ofMapping, houtput, Mapping.ofOptional_mapping, hduration, orElse_float, htype, hsuccess]
  rfl

end ActionResult

/-! ## Records -/

/-- A record as a backend keeps it. -/
def Backend.storedRecord (b : Backend) (r : ExecutionRecord) : ExecutionRecord :=
  match b with
  | .memory => r
  | .database =>
    { r with
      triggeredAt := r.triggeredAt.flatten
      totalDuration := .double r.totalDuration.flatten
      results := r.results.map ActionResult.flatten }

/-- Why a backend does not keep a record, leaving its identifier aside. -/
def Backend.refusal? (b : Backend) (r : ExecutionRecord) : Option Fault :=
  match b with
  | .memory => none
  | .database =>
    match r.totalDuration.toDouble? with
    | none => some formFault
    | some x =>
      if !r.results.all ActionResult.isStorable then some formFault
      else if x == .nan then some ⟨.integrity, []⟩
      else none

theorem Status.ofName?_name (t : Status) : ofName? t.name = some t := by cases t <;> decide

/-- What is read of the row of a record: the record in the form of the database. -/
theorem ExecutionRow.written_ofRecord (r : ExecutionRecord) : (ofRecord r).written =
    match Backend.database.refusal? r with
    | some f => .error f
    | none => .ok (Backend.database.storedRecord r) := by
  have hresults := jsonColumn_map ActionResult.entriesStorable_toMapping r.results
  have hread := mapM_map_eq_ok ActionResult.ofMapping_flatten r.results
  simp only [written, refreshed, ofRecord, hresults, Backend.refusal?, Number.column]
  cases hall : r.results.all ActionResult.isStorable with
  | false => cases r.totalDuration.toDouble? <;> rfl
  | true =>
    cases hdouble : r.totalDuration.toDouble? with
    | none => rfl
    | some x =>
      by_cases hnan : x == .nan
      · simp [hnan, bind, Except.bind]
      · simp [hnan, bind, Except.bind, pure, Except.pure, toRecord, EventType.ofName?_name,
          Status.ofName?_name, hread, Backend.storedRecord, Number.flatten, hdouble]

namespace Log

theorem append_eq (l : Log) (r : ExecutionRecord) : l.append r =
    match l.backend.refusal? r with
    | some f => .error f
    | none =>
      if l.backend = .database && l.records.any (·.id == r.id) then .error ⟨.integrity, []⟩
      else .ok { l with records := l.records ++ [l.backend.storedRecord r] } := by
  rw [append]
  cases hbackend : l.backend with
  | memory => rfl
  | database =>
    simp only [ExecutionRow.written_ofRecord]
    cases Backend.database.refusal? r with
    | some f => rfl
    | none =>
      cases l.records.any (·.id == r.id) <;>
        simp [bind, Except.bind, pure, Except.pure, throw, throwThe, MonadExceptOf.throw]

end Log

/-! ## Filters -/

/-- A timestamp that was told in UTC is told in UTC as it is. -/
theorem Timestamp.inUtc_inUtc {t u : Timestamp} (h : t.inUtc = .ok u) : u.inUtc = .ok u := by
  have hclock : t.toUtc.utcClock = t.utcClock := by simp [toUtc, utcClock]
  simp only [inUtc, toUtc?] at h
  cases hrange : inRange t.utcClock with
  | false =>
    rw [hrange] at h
    cases h
  | true =>
    rw [hrange] at h
    cases h
    simp only [inUtc, toUtc?, hclock, hrange, if_true]
    rw [toUtc, hclock, toUtc]

theorem Timestamp.inUtc_of_mapM {bound told : Option Timestamp}
    (h : bound.mapM Timestamp.inUtc = .ok told) : ∀ u ∈ told, u.inUtc = .ok u := by
  cases bound with
  | none =>
    cases h
    nofun
  | some t =>
    obtain ⟨u, hu, htold⟩ := bind_eq_ok_iff.1 h
    cases htold
    rintro _ ⟨⟩
    exact inUtc_inUtc hu

namespace ExecutionFilter

variable {f : ExecutionFilter} {r : ExecutionRecord}

theorem meets_append (row : ExecutionRow) (cs ds : List Clause) : meets row (cs ++ ds) = do
    if ← meets row cs then meets row ds else return false := by
  induction cs with
  | nil => rfl
  | cons clause rest ih =>
    simp only [List.cons_append, meets, ih]
    cases clause row with
    | error e => rfl
    | ok met => cases met <;> rfl

/-- The condition on a name never fails. -/
theorem meets_nameClauses (row : ExecutionRow) (wanted : Value) (column : ExecutionRow → String) :
    meets row (nameClauses wanted column) = .ok (admitsName wanted (column row)) := by
  cases wanted with
  | text s =>
    rw [nameClauses, admitsName, Bool.beq_comm]
    cases h : column row == s <;> simp [meets, bind, Except.bind, pure, Except.pure, h]
  | _ => rfl

/-- The condition on the start of a window, for a bound that is told in UTC. -/
theorem meets_start {bound : Option Timestamp} (h : ∀ u ∈ bound, u.inUtc = .ok u)
    (row : ExecutionRow) :
    (meets row (bound.toList.map fun u row => do return !(← row.triggeredAt.checkBefore u))) =
      notBefore row.triggeredAt bound := by
  cases bound with
  | none => rfl
  | some u =>
    rw [notBefore, h u rfl]
    simp only [Option.toList_some, List.map_cons, List.map_nil, meets, bind, Except.bind]
    cases row.triggeredAt.checkBefore u with
    | error e => rfl
    | ok before => cases before <;> rfl

/-- The condition on its end. -/
theorem meets_stop {bound : Option Timestamp} (h : ∀ u ∈ bound, u.inUtc = .ok u)
    (row : ExecutionRow) :
    (meets row (bound.toList.map fun u row => row.triggeredAt.checkBefore u)) =
      isBefore row.triggeredAt bound := by
  cases bound with
  | none => rfl
  | some u =>
    rw [isBefore, h u rfl]
    simp only [Option.toList_some, List.map_cons, List.map_nil, meets, bind, Except.bind]
    cases row.triggeredAt.checkBefore u with
    | error e => rfl
    | ok before => cases before <;> rfl

/-- A query has conditions if the bounds can be told in UTC, and then a row meets them just if its
record is admitted with the bounds so told. -/
theorem clauses_bind {β : Type} (f : ExecutionFilter) (ask : List Clause → Except Fault β)
    (told : ExecutionFilter → Except Fault β)
    (h : ∀ cs g, (∀ r, meets (.ofRecord r) cs = g.admits r) → ask cs = told g) :
    (f.clauses >>= ask) = (do
      let start ← f.start.mapM Timestamp.inUtc
      let stop ← f.stop.mapM Timestamp.inUtc
      told { f with start, stop }) := by
  rw [clauses]
  cases hstart : f.start.mapM Timestamp.inUtc with
  | error e => rfl
  | ok start =>
    cases hstop : f.stop.mapM Timestamp.inUtc with
    | error e => rfl
    | ok stop =>
      refine h _ _ fun r => ?_
      simp only [meets_append, meets_nameClauses, meets_start (Timestamp.inUtc_of_mapM hstart),
        meets_stop (Timestamp.inUtc_of_mapM hstop), admits, admitsNames]
      cases hworkflow : admitsName f.workflowId r.workflowId with
      | false => simp [ExecutionRow.ofRecord, hworkflow, bind, Except.bind, pure, Except.pure]
      | true =>
        cases hevent : admitsName f.eventType r.eventType.name with
        | false =>
          simp [ExecutionRow.ofRecord, hworkflow, hevent, bind, Except.bind, pure, Except.pure]
        | true =>
          simp only [ExecutionRow.ofRecord, hworkflow, hevent, bind, Except.bind, pure,
            Except.pure, if_true, Bool.true_and]
          cases admitsName f.status r.status.name <;>
            cases notBefore r.triggeredAt start <;> simp

end ExecutionFilter

namespace Log

/-- Both backends want the records that a filter admits; the database is asked with the bounds in
UTC. -/
theorem wanted_eq (l : Log) (f : ExecutionFilter) : l.wanted f =
    match l.backend with
    | .memory => filterChecked f.admits l.records.reverse
    | .database => (do
      let start ← f.start.mapM Timestamp.inUtc
      let stop ← f.stop.mapM Timestamp.inUtc
      filterChecked { f with start, stop }.admits l.records.reverse) := by
  rw [wanted]
  cases l.backend with
  | memory => rfl
  | database =>
    refine f.clauses_bind l.meeting (fun g => filterChecked g.admits l.records.reverse) ?_
    intro cs g hmeets
    rw [meeting, funext hmeets]

/-- The rows of a page and their number are those of one list. -/
theorem query_eq (l : Log) (f : ExecutionFilter) (skip limit : Int) : l.query f skip limit =
    match l.backend with
    | .memory => do
      let rs ← l.listing f
      return (slice rs skip (skip + limit), rs.length)
    | .database => do
      let rs ← l.wanted f
      if skipLimit ≤ skip || skipLimit ≤ limit || skip < -skipLimit || limit < -skipLimit then
        throw ⟨.overflow, []⟩
      let rest := (rs.mergeSort newerFirstById).drop skip.toNat
      return (if limit < 0 then rest else rest.take limit.toNat, rs.length) := by
  rw [query]
  cases hbackend : l.backend with
  | memory => rfl
  | database =>
    simp only [wanted, hbackend, count, page]
    cases f.clauses with
    | error e => rfl
    | ok clauses =>
      cases hmeeting : l.meeting clauses with
      | error e => simp [bind, Except.bind, hmeeting]
      | ok rs =>
        simp only [bind, Except.bind, pure, Except.pure, hmeeting]
        generalize (decide (skipLimit ≤ skip) || decide (skipLimit ≤ limit)
          || decide (skip < -skipLimit) || decide (limit < -skipLimit)) = beyond
        cases beyond <;> rfl

end Log

end Automation
