import Automation.Proofs.Execution.Surfaces
import Automation.Proofs.Workflow.Normal

/-!
# When a page of the history is given

A request is given a page exactly if it passes its checks, the log reads through its filter, and the
database can count the rows to be skipped (`Engine.history_outcomes`).  What fails is told by the
first check that does (`HistoryRequest.Fails`), or it is a fault of comparing timestamps or of
counting rows.

The checks fail with a validation error, with one exception: the bounds of a window are ordered
before they are told in UTC, so one without an offset and one with an offset are not ordered at all
(`Engine.history_faults`).
-/

namespace Automation

/-! ## Faults -/

/-- A fault of comparing timestamps. -/
inductive Fault.OfTime : Fault → Prop where
  | order : OfTime orderFault
  | calendar : OfTime calendarFault

namespace Timestamp

theorem ofTime_of_inUtc {t : Timestamp} {e : Fault} (h : t.inUtc = .error e) : e.OfTime := by
  rw [inUtc] at h
  split at h
  · cases h
  · cases h
    exact .calendar

theorem ofTime_of_checkBefore {t bound : Timestamp} {e : Fault}
    (h : t.checkBefore bound = .error e) : e.OfTime := by
  rw [checkBefore] at h
  split at h
  · cases h
  · cases h
    exact .order

end Timestamp

namespace ExecutionFilter

variable {t : Timestamp} {bound : Option Timestamp} {f : ExecutionFilter} {r : ExecutionRecord}
  {e : Fault}

theorem ofTime_of_notBefore (h : notBefore t bound = .error e) : e.OfTime := by
  cases bound with
  | none => cases h
  | some u =>
    rcases bind_eq_error_iff.1 h with h | ⟨_, -, h⟩
    · exact Timestamp.ofTime_of_inUtc h
    · rcases bind_eq_error_iff.1 h with h | ⟨_, -, h⟩
      · exact Timestamp.ofTime_of_checkBefore h
      · cases h

theorem ofTime_of_isBefore (h : isBefore t bound = .error e) : e.OfTime := by
  cases bound with
  | none => cases h
  | some u =>
    rcases bind_eq_error_iff.1 h with h | ⟨_, -, h⟩
    · exact Timestamp.ofTime_of_inUtc h
    · exact Timestamp.ofTime_of_checkBefore h

theorem ofTime_of_admits (h : f.admits r = .error e) : e.OfTime := by
  rw [admits] at h
  split at h
  · cases h
  · rcases bind_eq_error_iff.1 h with h | ⟨late, -, h⟩
    · exact ofTime_of_notBefore h
    · cases late with
      | false => cases h
      | true => exact ofTime_of_isBefore h

end ExecutionFilter

theorem ofTime_of_filterChecked {α : Type} {check : α → Except Fault Bool} {e : Fault}
    (h : ∀ x e, check x = .error e → e.OfTime) :
    ∀ {xs : List α}, filterChecked check xs = .error e → e.OfTime
  | [], he => by cases he
  | x :: xs, he => by
    rcases bind_eq_error_iff.1 he with he | ⟨_, -, he⟩
    · exact h x e he
    · rcases bind_eq_error_iff.1 he with he | ⟨_, -, he⟩
      · exact ofTime_of_filterChecked h he
      · cases he

theorem ofTime_of_mapM_inUtc {bound : Option Timestamp} {e : Fault}
    (h : bound.mapM Timestamp.inUtc = .error e) : e.OfTime := by
  cases bound with
  | none => cases h
  | some t =>
    cases hutc : t.inUtc with
    | error e' =>
      rw [Option.mapM_some, hutc] at h
      cases h
      exact Timestamp.ofTime_of_inUtc hutc
    | ok u =>
      rw [Option.mapM_some, hutc] at h
      cases h

namespace Log

variable {l : Log} {f : ExecutionFilter} {e : Fault}

theorem ofTime_of_wanted (h : l.wanted f = .error e) : e.OfTime := by
  have hadmits : ∀ {g : ExecutionFilter},
      filterChecked g.admits l.records.reverse = .error e → e.OfTime :=
    ofTime_of_filterChecked fun _ _ => ExecutionFilter.ofTime_of_admits
  rw [wanted_eq] at h
  cases hbackend : l.backend with
  | memory =>
    simp only [hbackend] at h
    exact hadmits h
  | database =>
    simp only [hbackend] at h
    rcases bind_eq_error_iff.1 h with h | ⟨_, -, h⟩
    · exact ofTime_of_mapM_inUtc h
    · rcases bind_eq_error_iff.1 h with h | ⟨_, -, h⟩
      · exact ofTime_of_mapM_inUtc h
      · exact hadmits h

/-- A query that fails cannot compare timestamps or count rows. -/
theorem query_fails {skip limit : Int} (h : l.query f skip limit = .error e) :
    e.OfTime ∨ e = ⟨.overflow, []⟩ := by
  rw [query_eq] at h
  cases hbackend : l.backend with
  | memory =>
    simp only [hbackend] at h
    rcases bind_eq_error_iff.1 h with h | ⟨_, -, h⟩
    · rcases bind_eq_error_iff.1 h with h | ⟨_, -, h⟩
      · exact .inl (ofTime_of_wanted h)
      · split at h
        · cases h
        · cases h
          exact .inl .order
    · cases h
  | database =>
    simp only [hbackend] at h
    rcases bind_eq_error_iff.1 h with h | ⟨_, -, h⟩
    · exact .inl (ofTime_of_wanted h)
    · right
      split at h
      · cases h
        rfl
      · cases h

end Log

/-! ## Requests -/

namespace HistoryRequest

/-- Nothing wanted, or the name of a status. -/
def KnownStatus (v : Value) : Prop := v = .null ∨ ∃ s : Status, v = .text s.name

/-- What a value wants of the kind of an event: nothing, or the kind that it names. -/
inductive WantsEvent : Value → Value → Prop where
  | null : WantsEvent .null .null
  | named {v : Value} {t : EventType} (describes : DescribesEventType v t) :
      WantsEvent v (.text t.name)

/-- The page and its size are in range. -/
structure InRange (q : HistoryRequest) : Prop where
  page : 1 ≤ q.page
  limit : 1 ≤ q.limit
  size : q.limit ≤ maxPageSize

/-- The bounds of the window are both naive or both not, if both are given. -/
def Comparable (q : HistoryRequest) : Prop :=
  ∀ t ∈ q.filter.start, ∀ u ∈ q.filter.stop, t.isNaive = u.isNaive

/-- The window starts before it ends, if both bounds are given. -/
def Ascending (q : HistoryRequest) : Prop :=
  ∀ t ∈ q.filter.start, ∀ u ∈ q.filter.stop, t.utcClock < u.utcClock

/-- A request that passes the checks before that of the window, for a kind of event. -/
structure Named (q : HistoryRequest) (eventType : Value) : Prop extends q.InRange where
  status : KnownStatus q.filter.status
  eventType : WantsEvent q.filter.eventType eventType

theorem checkStatus_eq_ok_iff {v v' : Value} :
    checkStatus v = .ok v' ↔ KnownStatus v ∧ v = v' := by
  constructor
  · intro h
    refine ⟨?_, (eq_of_checkStatus h).symm⟩
    cases v with
    | null => exact .inl rfl
    | text name =>
      rw [checkStatus] at h
      split at h
      · rename_i hknown
        obtain ⟨s, hs⟩ := Option.isSome_iff_exists.1 hknown
        rw [Status.ofName?] at hs
        have hname := List.find?_some hs
        exact .inr ⟨s, congrArg Value.text (beq_iff_eq.1 hname).symm⟩
      · cases h
    | _ => cases h
  · rintro ⟨h, rfl⟩
    exact checkStatus_of_known h

theorem checkEvent_eq_ok_iff {v v' : Value} : checkEvent v = .ok v' ↔ WantsEvent v v' := by
  by_cases hnull : v = .null
  · subst hnull
    constructor
    · intro h
      cases h
      exact .null
    · rintro (_ | ⟨⟨⟩⟩)
      rfl
  · have hchecked : checkEvent v = .ok v' ↔ ∃ t, checkEventType v = .ok t ∧ .text t.name = v' := by
      cases v with
      | null => exact absurd rfl hnull
      | _ =>
        simp only [checkEvent]
        split <;> rename_i hchecked <;> simp [hchecked]
    rw [hchecked]
    constructor
    · rintro ⟨t, ht, rfl⟩
      exact .named (checkEventType_eq_ok_iff.1 ht)
    · rintro (_ | ⟨hdescribes⟩)
      · exact absurd rfl hnull
      · exact ⟨_, checkEventType_eq_ok_iff.2 hdescribes, rfl⟩

/-- A value wants one kind of event at most. -/
theorem WantsEvent.unique {v t u : Value} (ht : WantsEvent v t) (hu : WantsEvent v u) : t = u :=
  Except.ok.inj ((checkEvent_eq_ok_iff.2 ht).symm.trans (checkEvent_eq_ok_iff.2 hu))

theorem checkWindow_eq_ok_iff {start stop : Option Timestamp} {x : Unit} :
    checkWindow start stop = .ok x ↔ ∀ t ∈ start, ∀ u ∈ stop,
      t.isNaive = u.isNaive ∧ t.utcClock < u.utcClock := by
  cases start with
  | none => simp [checkWindow]
  | some t =>
    cases stop with
    | none => simp [checkWindow]
    | some u =>
      simp only [checkWindow, Timestamp.comparable, Timestamp.before, Option.mem_some_iff,
        forall_eq']
      by_cases hsame : t.isNaive = u.isNaive
      · by_cases hbefore : t.utcClock < u.utcClock <;> simp [hsame, hbefore]
      · simp [hsame]

/-- A request that passes its checks is in range, for known names, and for a window that starts
before it ends. -/
theorem check_eq_ok_iff {q : HistoryRequest} {f : ExecutionFilter} :
    q.check = .ok f ↔ ∃ eventType, q.Named eventType ∧ q.Comparable ∧ q.Ascending ∧
      { q.filter with eventType } = f := by
  rw [check]
  by_cases hpage : q.page < 1
  · rw [if_pos hpage]
    constructor
    · intro h
      cases h
    · rintro ⟨_, hnamed, -⟩
      exact absurd hnamed.page (Int.not_le.2 hpage)
  · rw [if_neg hpage]
    by_cases hlimit : q.limit < 1 ∨ (maxPageSize : Int) < q.limit
    · rw [if_pos hlimit]
      constructor
      · intro h
        cases h
      · rintro ⟨_, ⟨⟨-, hlow, hhigh⟩, -, -⟩, -⟩
        omega
    · simp only [if_neg hlimit, bind_eq_ok_iff, checkStatus_eq_ok_iff, checkEvent_eq_ok_iff,
        checkWindow_eq_ok_iff, pure_eq_ok_iff]
      constructor
      · rintro ⟨_, ⟨hstatus, rfl⟩, v, hevent, _, hwindow, rfl⟩
        exact ⟨v, ⟨⟨by omega, by omega, by omega⟩, hstatus, hevent⟩,
          fun t ht u hu => (hwindow t ht u hu).1, fun t ht u hu => (hwindow t ht u hu).2, rfl⟩
      · rintro ⟨v, hnamed, hcomparable, hascending, rfl⟩
        exact ⟨_, ⟨hnamed.status, rfl⟩, v, hnamed.eventType, (),
          fun t ht u hu => ⟨hcomparable t ht u hu, hascending t ht u hu⟩, rfl⟩

/-- The first check of a request that fails. -/
inductive Fails (q : HistoryRequest) : HistoryError → Prop where
  | page (low : q.page < 1) : Fails q .badPage
  | limit (page : 1 ≤ q.page) (out : q.limit < 1 ∨ (maxPageSize : Int) < q.limit) :
      Fails q .badLimit
  | status (inRange : q.InRange) (unknown : ¬ KnownStatus q.filter.status) :
      Fails q (.unknownStatus q.filter.status)
  | eventType (inRange : q.InRange) (status : KnownStatus q.filter.status)
      (unknown : ∀ eventType, ¬ WantsEvent q.filter.eventType eventType) :
      Fails q (.unknownEventType q.filter.eventType)
  | unordered {eventType : Value} (named : q.Named eventType) (mixed : ¬ q.Comparable) :
      Fails q (.storage orderFault)
  | window {eventType : Value} (named : q.Named eventType) (comparable : q.Comparable)
      (empty : ¬ q.Ascending) : Fails q .emptyWindow

theorem eq_of_checkStatus_error {v : Value} {e : HistoryError} (h : checkStatus v = .error e) :
    ¬ KnownStatus v ∧ e = .unknownStatus v := by
  constructor
  · intro hknown
    rw [checkStatus_of_known hknown] at h
    cases h
  · cases v with
    | null => cases h
    | text name =>
      rw [checkStatus] at h
      split at h <;> cases h
      rfl
    | _ =>
      cases h
      rfl

theorem eq_of_checkEvent_error {v : Value} {e : HistoryError} (h : checkEvent v = .error e) :
    (∀ v', ¬ WantsEvent v v') ∧ e = .unknownEventType v := by
  constructor
  · intro v' hwants
    rw [checkEvent_eq_ok_iff.2 hwants] at h
    cases h
  · cases v with
    | null => cases h
    | _ =>
      simp only [checkEvent] at h
      split at h <;> cases h
      rfl

theorem eq_of_checkWindow_error {q : HistoryRequest} {e : HistoryError}
    (h : checkWindow q.filter.start q.filter.stop = .error e) :
    (¬ q.Comparable ∧ e = .storage orderFault) ∨
      q.Comparable ∧ ¬ q.Ascending ∧ e = .emptyWindow := by
  rw [Comparable, Ascending]
  cases hstart : q.filter.start with
  | none =>
    rw [hstart] at h
    cases h
  | some t =>
    cases hstop : q.filter.stop with
    | none =>
      rw [hstart, hstop] at h
      cases h
    | some u =>
      simp only [hstart, hstop, checkWindow, Timestamp.comparable, Timestamp.before] at h
      simp only [Option.mem_some_iff, forall_eq']
      by_cases hsame : t.isNaive = u.isNaive
      · by_cases hbefore : t.utcClock < u.utcClock
        · simp [hsame, hbefore] at h
        · simp only [hsame, hbefore, beq_self_eq_true, Bool.not_true, Bool.false_eq_true, if_false,
            decide_false] at h
          cases h
          exact .inr ⟨hsame, hbefore, rfl⟩
      · simp only [beq_eq_false_iff_ne.2 hsame, Bool.not_false, if_true] at h
        cases h
        exact .inl ⟨hsame, rfl⟩

theorem fails_of_check {q : HistoryRequest} {e : HistoryError} (h : q.check = .error e) :
    q.Fails e := by
  rw [check] at h
  by_cases hpage : q.page < 1
  · rw [if_pos hpage] at h
    cases h
    exact .page hpage
  · rw [if_neg hpage] at h
    by_cases hlimit : q.limit < 1 ∨ (maxPageSize : Int) < q.limit
    · rw [if_pos hlimit] at h
      cases h
      exact .limit (by omega) hlimit
    · have hrange : q.InRange := ⟨by omega, by omega, by omega⟩
      rw [if_neg hlimit] at h
      rcases bind_eq_error_iff.1 h with h | ⟨status, hstatus, h⟩
      · obtain ⟨hunknown, rfl⟩ := eq_of_checkStatus_error h
        exact .status hrange hunknown
      · obtain ⟨hknown, rfl⟩ := checkStatus_eq_ok_iff.1 hstatus
        rcases bind_eq_error_iff.1 h with h | ⟨eventType, hevent, h⟩
        · obtain ⟨hunknown, rfl⟩ := eq_of_checkEvent_error h
          exact .eventType hrange hknown hunknown
        · have hnamed : q.Named eventType := ⟨hrange, hknown, checkEvent_eq_ok_iff.1 hevent⟩
          rcases bind_eq_error_iff.1 h with h | ⟨_, -, h⟩
          · rcases eq_of_checkWindow_error h with ⟨hmixed, rfl⟩ | ⟨hsame, hempty, rfl⟩
            · exact .unordered hnamed hmixed
            · exact .window hnamed hsame hempty
          · cases h

end HistoryRequest

/-! ## Pages -/

namespace HistoryRequest

variable {q : HistoryRequest}

/-- The number of records before a page. -/
def skip (q : HistoryRequest) : Int := (q.page - 1) * q.limit

theorem InRange.skip_nonneg (h : q.InRange) : 0 ≤ q.skip :=
  Int.mul_nonneg (Int.sub_nonneg.2 h.page) (Int.le_trans (by decide) h.limit)

theorem InRange.limit_lt (h : q.InRange) : q.limit < Log.skipLimit :=
  Int.lt_of_le_of_lt h.size (by decide)

end HistoryRequest

namespace Log

variable {l : Log} {q : HistoryRequest}

/-- The page of the records that a filter selects. -/
def pageOf (l : Log) (f : ExecutionFilter) (q : HistoryRequest) : HistoryPage :=
  { data := ((l.arranged f).drop q.skip.toNat).take q.limit.toNat
    total := (l.selected f).length
    page := q.page
    limit := q.limit }

/-- A page beyond the end is empty. -/
theorem data_pageOf_of_beyond {f : ExecutionFilter}
    (h : (l.pageOf f q).total ≤ q.skip) : (l.pageOf f q).data = [] := by
  have hlength : (l.arranged f).length ≤ q.skip.toNat := by
    rw [arranged, List.length_mergeSort]
    exact Int.toNat_natCast _ ▸ Int.toNat_le_toNat h
  show ((l.arranged f).drop q.skip.toNat).take q.limit.toNat = []
  rw [List.drop_eq_nil_of_le hlength, List.take_nil]

/-- What a request is given that passes its checks. -/
theorem history_of_check {f : ExecutionFilter} (hcheck : q.check = .ok f) (hrange : q.InRange)
    {p : HistoryPage} :
    l.history q = .ok p ↔ l.Reads f ∧ ¬ l.Overflows q.skip ∧ l.pageOf f q = p := by
  have hquery : ∀ {answer}, l.query f ((q.page - 1) * q.limit) q.limit = .ok answer ↔
      l.Reads f ∧ ¬ l.Overflows q.skip ∧
        (((l.arranged f).drop q.skip.toNat).take q.limit.toNat, (l.selected f).length) = answer :=
    query_eq_ok_iff hrange.skip_nonneg (Int.le_trans (by decide) hrange.limit) hrange.limit_lt
  rw [history, hcheck]
  cases hanswer : l.query f ((q.page - 1) * q.limit) q.limit with
  | ok answer =>
    obtain ⟨hreads, hfits, rfl⟩ := hquery.1 hanswer
    simp [hreads, hfits, hanswer, pageOf, bind, Except.bind, pure, Except.pure]
  | error e =>
    constructor
    · intro h
      simp only [bind, Except.bind, hanswer] at h
      cases h
    · rintro ⟨hreads, hfits, -⟩
      rw [hquery.2 ⟨hreads, hfits, rfl⟩] at hanswer
      cases hanswer

/-- A page is given exactly if the request passes its checks, the log reads through the filter, and
the rows to be skipped can be counted. -/
theorem history_given_iff {p : HistoryPage} : l.history q = .ok p ↔
    ∃ eventType, q.Named eventType ∧ q.Comparable ∧ q.Ascending ∧
      l.Reads { q.filter with eventType } ∧ ¬ l.Overflows q.skip ∧
      l.pageOf { q.filter with eventType } q = p := by
  constructor
  · intro h
    obtain ⟨f, hcheck, -⟩ := bind_eq_ok_iff.1 h
    obtain ⟨eventType, hnamed, hsame, hascending, rfl⟩ := HistoryRequest.check_eq_ok_iff.1 hcheck
    exact ⟨eventType, hnamed, hsame, hascending, (history_of_check hcheck hnamed.toInRange).1 h⟩
  · rintro ⟨eventType, hnamed, hsame, hascending, h⟩
    have hcheck := HistoryRequest.check_eq_ok_iff.2 ⟨eventType, hnamed, hsame, hascending, rfl⟩
    exact (history_of_check hcheck hnamed.toInRange).2 h

/-- A page that is not given: a check fails, or the storage reports a fault. -/
theorem history_fails {e : HistoryError} (h : l.history q = .error e) :
    q.Fails e ∨ ∃ eventType f, q.Named eventType ∧ q.Comparable ∧ q.Ascending ∧ e = .storage f ∧
      (f.OfTime ∨ f = ⟨.overflow, []⟩) := by
  rcases bind_eq_error_iff.1 h with h | ⟨f, hcheck, h⟩
  · exact .inl (HistoryRequest.fails_of_check h)
  · obtain ⟨eventType, hnamed, hsame, hascending, -⟩ := HistoryRequest.check_eq_ok_iff.1 hcheck
    cases hanswer : l.query f q.skip q.limit with
    | ok answer =>
      rw [HistoryRequest.skip] at hanswer
      rw [hanswer] at h
      cases h
    | error fault =>
      have hfault := query_fails hanswer
      rw [HistoryRequest.skip] at hanswer
      rw [hanswer] at h
      cases h
      exact .inr ⟨eventType, fault, hnamed, hsame, hascending, rfl, hfault⟩

end Log

/-! ## Answers -/

namespace HistoryRequest

variable {q : HistoryRequest}

/-- A check fails that is not passed in any way, or bounds are found out of order. -/
theorem Fails.cases_on_storage {e : HistoryError} (h : q.Fails e) :
    (∃ f, e = .storage f ∧ ∃ eventType, q.Named eventType ∧ ¬ q.Comparable) ∨
      (∃ e', e.toFailure = .engine e' ∧ e'.kind = .validation) ∧
        ((∀ eventType, ¬ q.Named eventType) ∨ q.Comparable ∧ ¬ q.Ascending) := by
  cases h with
  | page low => exact .inr ⟨⟨_, rfl, rfl⟩, .inl fun _ h => absurd h.page (Int.not_le.2 low)⟩
  | limit page out =>
    refine .inr ⟨⟨_, rfl, rfl⟩, .inl fun _ h => ?_⟩
    have hlow := h.limit
    have hhigh := h.size
    omega
  | status inRange unknown => exact .inr ⟨⟨_, rfl, rfl⟩, .inl fun _ h => unknown h.status⟩
  | eventType inRange status unknown =>
    exact .inr ⟨⟨_, rfl, rfl⟩, .inl fun _ h => unknown _ h.eventType⟩
  | unordered named mixed => exact .inl ⟨_, rfl, _, named, mixed⟩
  | window named comparable empty => exact .inr ⟨⟨_, rfl, rfl⟩, .inr ⟨comparable, empty⟩⟩

theorem not_named_iff : (∀ eventType, ¬ q.Named eventType) ↔
    q.page < 1 ∨ q.limit < 1 ∨ (maxPageSize : Int) < q.limit ∨ ¬ KnownStatus q.filter.status ∨
      ∀ eventType, ¬ WantsEvent q.filter.eventType eventType := by
  constructor
  · intro h
    by_contra hnot
    push Not at hnot
    obtain ⟨hpage, hlimit, hsize, hstatus, eventType, hevent⟩ := hnot
    exact h eventType ⟨⟨hpage, hlimit, hsize⟩, hstatus, hevent⟩
  · rintro (h | h | h | h | h) eventType ⟨⟨hpage, hlimit, hsize⟩, hstatus, hevent⟩
    · omega
    · omega
    · omega
    · exact h hstatus
    · exact h eventType hevent

theorem not_ascending_iff : q.Comparable ∧ ¬ q.Ascending ↔
    ∃ t u, q.filter.start = some t ∧ q.filter.stop = some u ∧ t.isNaive = u.isNaive ∧
      u.utcClock ≤ t.utcClock := by
  rw [Comparable, Ascending]
  cases q.filter.start <;> cases q.filter.stop <;> simp

end HistoryRequest

namespace Engine

variable {s : Engine} {q : HistoryRequest}

/-- A request is answered with a validation error. -/
def Rejects (s : Engine) (q : HistoryRequest) : Prop :=
  ∃ e, s.history q = .error (.engine e) ∧ e.kind = .validation

theorem history_ok_iff {p : HistoryPage} : s.history q = .ok p ↔
    ∃ eventType, q.Named eventType ∧ q.Comparable ∧ q.Ascending ∧
      s.log.Reads { q.filter with eventType } ∧ ¬ s.log.Overflows q.skip ∧
      s.log.pageOf { q.filter with eventType } q = p := by
  rw [history, mapError_eq_ok_iff, Log.history_given_iff]

theorem history_error {f : Failure} (h : s.history q = .error f) :
    (∃ e, q.Fails e ∧ f = e.toFailure) ∨
      ∃ eventType fault, q.Named eventType ∧ q.Comparable ∧ q.Ascending ∧ f = .fault fault ∧
        (fault.OfTime ∨ fault = ⟨.overflow, []⟩) := by
  rw [history] at h
  cases hlog : s.log.history q with
  | ok p =>
    rw [hlog] at h
    cases h
  | error e =>
    rw [hlog] at h
    cases h
    rcases Log.history_fails hlog with hfails | ⟨eventType, fault, hnamed, hsame, hasc, rfl, hfault⟩
    · exact .inl ⟨e, hfails, rfl⟩
    · exact .inr ⟨eventType, fault, hnamed, hsame, hasc, rfl, hfault⟩

/-- A request is rejected exactly if a check fails that is not that of the order of two bounds which
cannot be ordered. -/
theorem rejects_iff :
    s.Rejects q ↔ (∀ eventType, ¬ q.Named eventType) ∨ q.Comparable ∧ ¬ q.Ascending := by
  constructor
  · rintro ⟨e, h, hkind⟩
    rcases history_error h with ⟨e', hfails, he⟩ | ⟨_, _, _, _, _, he, _⟩
    · rcases hfails.cases_on_storage with ⟨f, rfl, _⟩ | ⟨_, hcases⟩
      · cases he
      · exact hcases
    · cases he
  · intro hcases
    cases h : s.history q with
    | ok p =>
      obtain ⟨eventType, hnamed, -, hasc, -⟩ := history_ok_iff.1 h
      rcases hcases with hnone | ⟨-, hnot⟩
      · exact absurd hnamed (hnone eventType)
      · exact absurd hasc hnot
    | error f =>
      rcases history_error h with ⟨e, hfails, rfl⟩ | ⟨eventType, _, hnamed, -, hasc, -⟩
      · rcases hfails.cases_on_storage with
          ⟨_, _, eventType, hnamed, hmixed⟩ | ⟨⟨e', he', hkind⟩, _⟩
        · rcases hcases with hnone | ⟨hsame, -⟩
          · exact absurd hnamed (hnone eventType)
          · exact absurd hsame hmixed
        · exact ⟨e', h.trans (congrArg Except.error he'), hkind⟩
      · rcases hcases with hnone | ⟨-, hnot⟩
        · exact absurd hnamed (hnone eventType)
        · exact absurd hasc hnot

/-- What a request for a page of the history is answered with, on both backends.

It is rejected with a validation error exactly if the page or its size is out of range, the status
or the kind of event is not known, or the window has two bounds that can be ordered and does not
start before it ends.  It is given a page exactly if the checks pass, the bounds can be ordered, the
log reads through the filter and the rows to be skipped can be counted; the total of the page is the
number of records that the filter selects, and there is no record beyond it.  Every other answer is
a fault of comparing timestamps or of counting rows.  No request is answered with a fault if its
bounds can be ordered and told in UTC, its rows can be counted and all records carry offsets. -/
theorem history_outcomes (s : Engine) (q : HistoryRequest) :
    (s.Rejects q ↔
      q.page < 1 ∨ q.limit < 1 ∨ (maxPageSize : Int) < q.limit ∨
        ¬ HistoryRequest.KnownStatus q.filter.status ∨
        (∀ eventType, ¬ HistoryRequest.WantsEvent q.filter.eventType eventType) ∨
        ∃ t u, q.filter.start = some t ∧ q.filter.stop = some u ∧ t.isNaive = u.isNaive ∧
          u.utcClock ≤ t.utcClock) ∧
    (∀ p, s.history q = .ok p ↔
      ∃ eventType, q.Named eventType ∧ q.Comparable ∧ q.Ascending ∧
        s.log.Reads { q.filter with eventType } ∧ ¬ s.log.Overflows q.skip ∧
        s.log.pageOf { q.filter with eventType } q = p) ∧
    (∀ p, s.history q = .ok p →
      ∃ eventType, HistoryRequest.WantsEvent q.filter.eventType eventType ∧
        p.total = s.log.records.countP ({ q.filter with eventType } : ExecutionFilter).selects ∧
        (p.total ≤ q.skip → p.data = [])) ∧
    (∀ f, s.history q = .error f →
      (∃ e, q.Fails e ∧ f = e.toFailure) ∨
        ∃ fault, f = .fault fault ∧ (fault.OfTime ∨ fault = ⟨.overflow, []⟩)) ∧
    ((∀ r ∈ s.log.records, r.triggeredAt.isNaive = false) → q.filter.Convertible →
      q.Comparable → ¬ s.log.Overflows q.skip → s.Rejects q ∨ ∃ p, s.history q = .ok p) := by
  refine ⟨?_, fun p => history_ok_iff, ?_, ?_, ?_⟩
  · rw [rejects_iff, HistoryRequest.not_named_iff, HistoryRequest.not_ascending_iff]
    simp only [or_assoc]
  · intro p h
    obtain ⟨eventType, hnamed, -, -, -, -, rfl⟩ := history_ok_iff.1 h
    refine ⟨eventType, hnamed.eventType, ?_, Log.data_pageOf_of_beyond⟩
    rw [List.countP_eq_length_filter]
    exact (s.log.records.reverse_perm.filter _).length_eq
  · intro f h
    rcases history_error h with hfails | ⟨_, fault, -, -, -, hf, hfault⟩
    · exact .inl hfails
    · exact .inr ⟨fault, hf, hfault⟩
  · intro haware hconvertible hsame hfits
    by_cases hrejects : s.Rejects q
    · exact .inl hrejects
    · right
      rw [rejects_iff, not_or, not_forall_not, not_and_not_right] at hrejects
      obtain ⟨⟨eventType, hnamed⟩, hasc⟩ := hrejects
      have hreads : s.log.Reads { q.filter with eventType } :=
        Log.reads_of_aware haware ⟨hconvertible.start, hconvertible.stop⟩
      exact ⟨_, history_ok_iff.2 ⟨eventType, hnamed, hsame, hasc hsame, hreads, hfits, rfl⟩⟩

/-- Five records of one instant: one of another workflow, and one that is no success. -/
def crowded : Engine :=
  let records : List (String × String × Status) :=
    [("a", "w", .success), ("b", "v", .success), ("c", "w", .failed), ("d", "w", .success),
      ("e", "w", .success)]
  { empty .memory ⟨0, some 0⟩ with
    log := ⟨.memory, records.map fun (id, workflowId, status) =>
      ⟨id, workflowId, .customerCreated, ⟨0, some 0⟩, status, [], .int 0⟩⟩ }

/-- A request for the successes of a workflow for new customers, two on a page. -/
def successes : HistoryRequest :=
  { limit := 2
    filter :=
      { workflowId := .text "w"
        eventType := .text "customer_created"
        status := .text "success" } }

theorem named_successes : successes.Named (.text "CUSTOMER_CREATED") := by
  have hevent : DescribesEventType (.text "customer_created") .customerCreated :=
    .text (by decide +kernel)
  exact ⟨⟨by decide, by decide, by decide⟩, .inr ⟨.success, rfl⟩, .named hevent⟩

/-- The page is given, and its total is that of the records that are wanted. -/
theorem history_outcomes_crowded :
    ∃ p, crowded.history successes = .ok p ∧ p.total = 3 := by
  obtain ⟨-, -, htotal, -, hgiven⟩ := history_outcomes crowded successes
  have hpasses : ¬ crowded.Rejects successes := by
    rw [rejects_iff, not_or]
    exact ⟨fun h => h _ named_successes, fun h => h.2 nofun⟩
  obtain ⟨p, hp⟩ := (hgiven (by decide) ⟨nofun, nofun⟩ nofun nofun).resolve_left hpasses
  obtain ⟨eventType, hevent, hp', -⟩ := htotal p hp
  obtain rfl := hevent.unique named_successes.eventType
  exact ⟨p, hp, hp'⟩

/-- A request for a day whose start is told without an offset and whose end is told in UTC. -/
def mixedWindow : HistoryRequest :=
  { filter := { start := some ⟨0, none⟩, stop := some ⟨Timestamp.day, some 0⟩ } }

/-- A request that is to be rejected for nothing is answered with a fault: the bounds of its window
are not ordered although the start is before the end.  The database also has a fault for a bound
that is told with an offset and lies before the calendar in UTC, and for a page that is too far. -/
theorem history_faults :
    (mixedWindow.Named .null ∧ mixedWindow.Ascending ∧
      (empty .memory ⟨0, some 0⟩).history mixedWindow = .error (.fault orderFault) ∧
      (empty .database ⟨0, some 0⟩).history mixedWindow = .error (.fault orderFault)) ∧
    (empty .database ⟨0, some 0⟩).history { filter := { start := some ⟨0, some Timestamp.second⟩ } }
      = .error (.fault calendarFault) ∧
    (empty .database ⟨0, some 0⟩).history { page := Log.skipLimit }
      = .error (.fault ⟨.overflow, []⟩) := by
  refine ⟨⟨⟨⟨by decide, by decide, by decide⟩, .inl rfl, .null⟩, ?_, rfl, rfl⟩, rfl, rfl⟩
  intro t ht u hu
  cases ht
  cases hu
  decide

end Engine

end Automation
