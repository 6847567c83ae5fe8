import Automation.Execution.History
import Automation.Proofs.Execution.Rows
import Mathlib.Data.List.Basic
import Mathlib.Data.Option.Basic

/-!
# Listings of the log

The check of a record by a filter can fail, and it fails only for timestamps that cannot be compared
or told in UTC.  A timestamp can be held against a bound if it carries an offset and the bound can
be told in UTC (`Timestamp.Meets`).  A filter *decides* a record if it never comes to a bound that
the record cannot be held against (`ExecutionFilter.Decides`).  Then the check is a Boolean test of
names (`ExecutionFilter.Names`) and instants (`ExecutionFilter.selects`), and both backends want the
records that pass it (`Log.wanted_eq_ok_iff`).  A log *reads* through a filter if all its records
are decided and those that are selected can be sorted (`Log.Reads`); a part of its listing is given
exactly then, if the rows to be skipped can be counted (`Log.query_eq_ok_iff`).

If every record is later than those appended before it, the order of a listing is that of appending
turned round, on both backends (`Log.Ordered.listing_eq`), and a page is a part of that list
(`Log.Ordered.query_eq`).
-/

namespace Automation

namespace Timestamp

/-- The instant lies within the calendar. -/
def Convertible (t : Timestamp) : Prop := inRange t.utcClock = true

theorem inUtc_eq {t : Timestamp} (h : t.Convertible) : t.inUtc = .ok t.toUtc := by
  simp only [Convertible] at h
  simp [inUtc, toUtc?, h, toUtc]

@[simp] theorem utcClock_toUtc (t : Timestamp) : t.toUtc.utcClock = t.utcClock := by
  simp [toUtc, utcClock]

theorem Convertible.toUtc {t : Timestamp} (h : t.Convertible) : t.toUtc.Convertible := by
  rwa [Convertible, utcClock_toUtc]

theorem inUtc_eq_ok_iff {t u : Timestamp} : t.inUtc = .ok u ↔ t.Convertible ∧ t.toUtc = u := by
  rw [inUtc, toUtc?, Convertible]
  cases inRange t.utcClock <;> simp [toUtc]

theorem checkBefore_toUtc_eq_ok_iff {t bound : Timestamp} {b : Bool} :
    t.checkBefore bound.toUtc = .ok b ↔ t.isNaive = false ∧ t.before bound = b := by
  have hbound : bound.toUtc.isNaive = false := rfl
  cases hnaive : t.isNaive <;> simp [checkBefore, comparable, hnaive, hbound, before]

/-- A timestamp can be held against a bound, if there is one. -/
def Meets (t : Timestamp) (bound : Option Timestamp) : Prop :=
  ∀ u ∈ bound, u.Convertible ∧ t.isNaive = false

theorem meets_toUtc_iff {t : Timestamp} {bound : Option Timestamp}
    (h : ∀ u ∈ bound, u.Convertible) : t.Meets (bound.map toUtc) ↔ t.Meets bound := by
  cases bound with
  | none => rfl
  | some u =>
    have hu := h u rfl
    simp [Meets, hu, hu.toUtc]

end Timestamp

/-! ## Filters -/

namespace ExecutionFilter

/-- A filter whose bounds can be told in UTC. -/
structure Convertible (f : ExecutionFilter) : Prop where
  start : ∀ t ∈ f.start, t.Convertible
  stop : ∀ t ∈ f.stop, t.Convertible

/-- The filter with its bounds told in UTC. -/
def toUtc (f : ExecutionFilter) : ExecutionFilter :=
  { f with start := f.start.map Timestamp.toUtc, stop := f.stop.map Timestamp.toUtc }

/-- A record has the names that are asked for. -/
@[mk_iff names_iff]
structure Names (f : ExecutionFilter) (r : ExecutionRecord) : Prop where
  workflow : f.workflowId = .null ∨ f.workflowId = .text r.workflowId
  event : f.eventType = .null ∨ f.eventType = .text r.eventType.name
  status : f.status = .null ∨ f.status = .text r.status.name

theorem admitsName_iff {wanted : Value} {name : String} :
    admitsName wanted name = true ↔ wanted = .null ∨ wanted = .text name := by
  cases wanted <;> simp [admitsName]

theorem admitsNames_iff {f : ExecutionFilter} {r : ExecutionRecord} :
    f.admitsNames r = true ↔ f.Names r := by
  rw [names_iff, admitsNames, Bool.and_eq_true, Bool.and_eq_true, admitsName_iff, admitsName_iff,
    admitsName_iff, and_assoc]

instance (f : ExecutionFilter) (r : ExecutionRecord) : Decidable (f.Names r) :=
  decidable_of_iff _ admitsNames_iff

/-- The names that are asked for do not depend on the window. -/
theorem names_within_iff (f : ExecutionFilter) (start stop : Option Timestamp)
    (r : ExecutionRecord) : ({ f with start, stop } : ExecutionFilter).Names r ↔ f.Names r := by
  rw [names_iff, names_iff]

/-- Whether a record has the wanted names and lies in the wanted window of instants. -/
def selects (f : ExecutionFilter) (r : ExecutionRecord) : Bool :=
  decide (f.Names r) && (f.start.all fun bound => !r.triggeredAt.before bound)
    && f.stop.all fun bound => r.triggeredAt.before bound

theorem Convertible.toUtc {f : ExecutionFilter} (h : f.Convertible) : f.toUtc.Convertible := by
  constructor
  · intro t ht
    obtain ⟨bound, hbound, rfl⟩ := Option.mem_map.1 ht
    exact (h.start bound hbound).toUtc
  · intro t ht
    obtain ⟨bound, hbound, rfl⟩ := Option.mem_map.1 ht
    exact (h.stop bound hbound).toUtc

@[simp] theorem selects_toUtc (f : ExecutionFilter) : f.toUtc.selects = f.selects := by
  funext r
  have hnames : decide (f.toUtc.Names r) = decide (f.Names r) :=
    decide_eq_decide.2 (f.names_within_iff _ _ r)
  rw [selects, selects, hnames]
  simp only [toUtc]
  cases f.start <;> cases f.stop <;> simp [Timestamp.before]

variable {f : ExecutionFilter} {t : Timestamp} {bound : Option Timestamp} {b : Bool}
  {r : ExecutionRecord}

theorem notBefore_eq_ok_iff :
    notBefore t bound = .ok b ↔ t.Meets bound ∧ (bound.all fun u => !t.before u) = b := by
  cases bound with
  | none => simp [notBefore, Timestamp.Meets]
  | some u =>
    simp only [notBefore, bind_eq_ok_iff, pure_eq_ok_iff, Timestamp.inUtc_eq_ok_iff]
    constructor
    · rintro ⟨_, ⟨hconvertible, rfl⟩, before, hbefore, rfl⟩
      obtain ⟨haware, rfl⟩ := Timestamp.checkBefore_toUtc_eq_ok_iff.1 hbefore
      exact ⟨fun _ hu => Option.mem_some.1 hu ▸ ⟨hconvertible, haware⟩, rfl⟩
    · rintro ⟨hmeets, rfl⟩
      obtain ⟨hconvertible, haware⟩ := hmeets u rfl
      exact ⟨_, ⟨hconvertible, rfl⟩, _,
        Timestamp.checkBefore_toUtc_eq_ok_iff.2 ⟨haware, rfl⟩, rfl⟩

theorem isBefore_eq_ok_iff :
    isBefore t bound = .ok b ↔ t.Meets bound ∧ (bound.all fun u => t.before u) = b := by
  cases bound with
  | none => simp [isBefore, Timestamp.Meets]
  | some u =>
    simp only [isBefore, bind_eq_ok_iff, Timestamp.inUtc_eq_ok_iff]
    constructor
    · rintro ⟨_, ⟨hconvertible, rfl⟩, hbefore⟩
      obtain ⟨haware, rfl⟩ := Timestamp.checkBefore_toUtc_eq_ok_iff.1 hbefore
      exact ⟨fun _ hu => Option.mem_some.1 hu ▸ ⟨hconvertible, haware⟩, rfl⟩
    · rintro ⟨hmeets, rfl⟩
      obtain ⟨hconvertible, haware⟩ := hmeets u rfl
      exact ⟨_, ⟨hconvertible, rfl⟩, Timestamp.checkBefore_toUtc_eq_ok_iff.2 ⟨haware, rfl⟩⟩

/-- A record can be held against every bound that a filter comes to: against none if the names are
not those wanted, and not against the end if the record lies before the start. -/
structure Decides (f : ExecutionFilter) (r : ExecutionRecord) : Prop where
  start : f.Names r → r.triggeredAt.Meets f.start
  stop : f.Names r →
    (f.start.all fun u => !r.triggeredAt.before u) = true → r.triggeredAt.Meets f.stop

theorem admits_eq_ok_iff : f.admits r = .ok b ↔ f.Decides r ∧ f.selects r = b := by
  rw [admits]
  cases hadmits : f.admitsNames r with
  | false =>
    have hnames : ¬ f.Names r := fun h => by simp [admitsNames_iff.2 h] at hadmits
    have hdecides : f.Decides r := ⟨fun h => absurd h hnames, fun h => absurd h hnames⟩
    simp [hdecides, selects, hnames]
  | true =>
    have hnames : f.Names r := admitsNames_iff.1 hadmits
    simp only [Bool.not_true, Bool.false_eq_true, if_false, bind_eq_ok_iff, notBefore_eq_ok_iff,
      selects, hnames, decide_true, Bool.true_and]
    constructor
    · rintro ⟨late, ⟨hstart, hlate⟩, h⟩
      rw [hlate]
      cases late with
      | false =>
        cases h
        exact ⟨⟨fun _ => hstart, fun _ h => by simp [hlate] at h⟩, rfl⟩
      | true =>
        obtain ⟨hstop, hb⟩ := isBefore_eq_ok_iff.1 h
        exact ⟨⟨fun _ => hstart, fun _ _ => hstop⟩, hb⟩
    · rintro ⟨hdecides, hb⟩
      refine ⟨_, ⟨hdecides.start hnames, rfl⟩, ?_⟩
      cases hlate : f.start.all fun u => !r.triggeredAt.before u with
      | false =>
        rw [hlate] at hb
        rw [← hb]
        rfl
      | true =>
        rw [hlate] at hb
        exact isBefore_eq_ok_iff.2 ⟨hdecides.stop hnames hlate, hb⟩

/-- A record that carries an offset is decided by a filter whose bounds can be told in UTC. -/
theorem Convertible.decides (h : f.Convertible) (hr : r.triggeredAt.isNaive = false) :
    f.Decides r :=
  ⟨fun _ u hu => ⟨h.start u hu, hr⟩, fun _ _ u hu => ⟨h.stop u hu, hr⟩⟩

/-- A filter and the same with its bounds in UTC decide the same records. -/
theorem Convertible.decides_toUtc_iff (h : f.Convertible) : f.toUtc.Decides r ↔ f.Decides r := by
  have hnames : f.toUtc.Names r ↔ f.Names r := f.names_within_iff _ _ r
  have hlate : (f.toUtc.start.all fun u => !r.triggeredAt.before u) =
      f.start.all fun u => !r.triggeredAt.before u := by
    show (f.start.map Timestamp.toUtc).all _ = _
    cases f.start <;> simp [Timestamp.before]
  have hstart : r.triggeredAt.Meets f.toUtc.start ↔ r.triggeredAt.Meets f.start :=
    Timestamp.meets_toUtc_iff h.start
  have hstop : r.triggeredAt.Meets f.toUtc.stop ↔ r.triggeredAt.Meets f.stop :=
    Timestamp.meets_toUtc_iff h.stop
  constructor
  · rintro ⟨start, stop⟩
    exact ⟨fun hn => hstart.1 (start (hnames.2 hn)),
      fun hn hl => hstop.1 (stop (hnames.2 hn) (hlate ▸ hl))⟩
  · rintro ⟨start, stop⟩
    exact ⟨fun hn => hstart.2 (start (hnames.1 hn)),
      fun hn hl => hstop.2 (stop (hnames.1 hn) (hlate ▸ hl))⟩

end ExecutionFilter

theorem filterChecked_eq_ok_iff {α : Type} {check : α → Except Fault Bool} {D : α → Prop}
    {p : α → Bool} (h : ∀ x b, check x = .ok b ↔ D x ∧ p x = b) :
    ∀ {xs ys : List α}, filterChecked check xs = .ok ys ↔ (∀ x ∈ xs, D x) ∧ xs.filter p = ys
  | [], ys => by simp [filterChecked]
  | x :: xs, ys => by
    simp only [filterChecked, bind_eq_ok_iff, pure_eq_ok_iff, h, filterChecked_eq_ok_iff h,
      List.forall_mem_cons, List.filter_cons]
    constructor
    · rintro ⟨_, ⟨hx, rfl⟩, _, ⟨hxs, rfl⟩, hys⟩
      exact ⟨⟨hx, hxs⟩, hys⟩
    · rintro ⟨⟨hx, hxs⟩, hys⟩
      exact ⟨_, ⟨hx, rfl⟩, _, ⟨hxs, rfl⟩, hys⟩

theorem mapM_inUtc_eq_ok_iff {bound bound' : Option Timestamp} :
    bound.mapM Timestamp.inUtc = .ok bound' ↔
      (∀ t ∈ bound, t.Convertible) ∧ bound.map Timestamp.toUtc = bound' := by
  cases bound with
  | none => simp [pure, Except.pure]
  | some t =>
    simp only [Option.mapM_some, Option.mem_some_iff, forall_eq', Option.map_some]
    cases hutc : t.inUtc with
    | error e =>
      have hnot : ¬ t.Convertible := fun h => by
        rw [Timestamp.inUtc_eq h] at hutc
        cases hutc
      simp [hnot]
    | ok u =>
      obtain ⟨h, rfl⟩ := Timestamp.inUtc_eq_ok_iff.1 hutc
      simp [h]

/-- A part of a list from a place on. -/
theorem slice_eq {α : Type} (xs : List α) {start size : Int} (hstart : 0 ≤ start)
    (hsize : 0 ≤ size) :
    slice xs start (start + size) = (xs.drop start.toNat).take size.toNat := by
  have hstop : (start + size).toNat = start.toNat + size.toNat := by omega
  simp only [slice, if_neg (Int.not_lt.2 hstart),
    if_neg (Int.not_lt.2 (Int.add_nonneg hstart hsize)), hstop]
  rw [List.take_drop]

/-! ## Listings -/

namespace Log

variable {l : Log} {f : ExecutionFilter} {rs : List ExecutionRecord}

/-- The records of a log that a filter selects, the latest appended first. -/
def selected (l : Log) (f : ExecutionFilter) : List ExecutionRecord :=
  l.records.reverse.filter f.selects

/-- A log can be read through a filter. -/
structure Reads (l : Log) (f : ExecutionFilter) : Prop where
  /-- The database is asked with bounds in UTC, whatever its records. -/
  convertible : l.backend = .database → f.Convertible
  decides : ∀ r ∈ l.records, f.Decides r
  /-- In memory the records that are selected are sorted after they are selected. -/
  sortable : l.backend = .memory → orderable (l.selected f) = true

/-- Both backends want the records that the filter selects. -/
theorem wanted_eq_ok_iff : l.wanted f = .ok rs ↔
    ((l.backend = .database → f.Convertible) ∧ ∀ r ∈ l.records, f.Decides r) ∧
      l.selected f = rs := by
  have hadmits : ∀ {g : ExecutionFilter}, filterChecked g.admits l.records.reverse = .ok rs ↔
      (∀ r ∈ l.records.reverse, g.Decides r) ∧ l.records.reverse.filter g.selects = rs :=
    fun {g} => filterChecked_eq_ok_iff fun _ _ => ExecutionFilter.admits_eq_ok_iff
  rw [wanted_eq]
  cases hbackend : l.backend with
  | memory => simp [hadmits, selected]
  | database =>
    simp only [bind_eq_ok_iff, mapM_inUtc_eq_ok_iff, hadmits, List.mem_reverse, true_imp_iff]
    constructor
    · rintro ⟨_, ⟨hstart, rfl⟩, _, ⟨hstop, rfl⟩, hdecides, hrs⟩
      have hf : f.Convertible := ⟨hstart, hstop⟩
      refine ⟨⟨hf, fun r hr => hf.decides_toUtc_iff.1 (hdecides r hr)⟩, ?_⟩
      rw [← hrs]
      exact (congrArg (fun p => l.records.reverse.filter p) f.selects_toUtc).symm
    · rintro ⟨⟨hf, hdecides⟩, rfl⟩
      refine ⟨_, ⟨hf.start, rfl⟩, _, ⟨hf.stop, rfl⟩,
        fun r hr => hf.decides_toUtc_iff.2 (hdecides r hr), ?_⟩
      exact congrArg (fun p => l.records.reverse.filter p) f.selects_toUtc

theorem listing_eq_ok_iff : l.listing f = .ok rs ↔
    (((l.backend = .database → f.Convertible) ∧ ∀ r ∈ l.records, f.Decides r) ∧
      orderable (l.selected f) = true) ∧ (l.selected f).mergeSort newerFirst = rs := by
  simp only [listing, bind_eq_ok_iff, wanted_eq_ok_iff]
  constructor
  · rintro ⟨_, ⟨hwanted, rfl⟩, hsorted⟩
    cases hsortable : orderable (l.selected f) with
    | false =>
      rw [hsortable] at hsorted
      cases hsorted
    | true =>
      rw [hsortable] at hsorted
      exact ⟨⟨hwanted, rfl⟩, pure_eq_ok_iff.1 hsorted⟩
  · rintro ⟨⟨hwanted, hsortable⟩, rfl⟩
    exact ⟨_, ⟨hwanted, rfl⟩, by rw [hsortable]; rfl⟩

/-- The records that a filter selects, in the order of the pages. -/
def arranged (l : Log) (f : ExecutionFilter) : List ExecutionRecord :=
  (l.selected f).mergeSort (match l.backend with
    | .memory => newerFirst
    | .database => newerFirstById)

/-- The rows to be skipped are more than the database can count. -/
def Overflows (l : Log) (skip : Int) : Prop := l.backend = .database ∧ skipLimit ≤ skip

theorem query_eq_ok_iff {skip limit : Int} (hskip : 0 ≤ skip) (hlimit : 0 ≤ limit)
    (hlimit' : limit < skipLimit) {answer : List ExecutionRecord × Nat} :
    l.query f skip limit = .ok answer ↔ l.Reads f ∧ ¬ l.Overflows skip ∧
      (((l.arranged f).drop skip.toNat).take limit.toNat, (l.selected f).length) = answer := by
  rw [query_eq]
  cases hbackend : l.backend with
  | memory =>
    have hanswer : (slice ((l.selected f).mergeSort newerFirst) skip (skip + limit),
        ((l.selected f).mergeSort newerFirst).length) =
        (((l.arranged f).drop skip.toNat).take limit.toNat, (l.selected f).length) := by
      rw [slice_eq _ hskip hlimit, List.length_mergeSort, arranged, hbackend]
    simp only [bind_eq_ok_iff, listing_eq_ok_iff, pure_eq_ok_iff]
    constructor
    · rintro ⟨_, ⟨⟨⟨hf, hdecides⟩, hsortable⟩, rfl⟩, rfl⟩
      refine ⟨⟨hf, hdecides, fun _ => hsortable⟩, fun h => ?_, hanswer.symm⟩
      cases hbackend.symm.trans h.1
    · rintro ⟨⟨hf, hdecides, hsortable⟩, -, rfl⟩
      exact ⟨_, ⟨⟨⟨hf, hdecides⟩, hsortable hbackend⟩, rfl⟩, hanswer⟩
  | database =>
    have hrange : (decide (skipLimit ≤ skip) || decide (skipLimit ≤ limit) ||
        decide (skip < -skipLimit) || decide (limit < -skipLimit)) = decide (skipLimit ≤ skip) := by
      have hlow : 0 < skipLimit := by decide
      rw [decide_eq_false (Int.not_le.2 hlimit'), decide_eq_false (by omega : ¬ skip < -skipLimit),
        decide_eq_false (by omega : ¬ limit < -skipLimit)]
      simp only [Bool.or_false]
    simp only [bind_eq_ok_iff, wanted_eq_ok_iff, hrange, Overflows, arranged, hbackend,
      if_neg (Int.not_lt.2 hlimit), true_and]
    constructor
    · rintro ⟨_, ⟨⟨hf, hdecides⟩, rfl⟩, hrest⟩
      refine ⟨⟨fun _ => hf trivial, hdecides, fun h => ?_⟩, ?_⟩
      · cases hbackend.symm.trans h
      · by_cases hskip' : skipLimit ≤ skip
        · rw [decide_eq_true hskip'] at hrest
          cases hrest
        · rw [decide_eq_false hskip'] at hrest
          exact ⟨hskip', pure_eq_ok_iff.1 hrest⟩
    · rintro ⟨⟨hf, hdecides, -⟩, hskip', rfl⟩
      refine ⟨_, ⟨⟨fun _ => hf hbackend, hdecides⟩, rfl⟩, ?_⟩
      rw [decide_eq_false hskip']
      rfl

/-- A listing that is given holds the records that the filter selects, the newest first. -/
theorem eq_of_listing (h : l.listing f = .ok rs) : rs = (l.selected f).mergeSort newerFirst :=
  (listing_eq_ok_iff.1 h).2.symm

theorem perm_of_listing (h : l.listing f = .ok rs) : rs.Perm (l.records.filter f.selects) := by
  rw [eq_of_listing h]
  exact (List.mergeSort_perm _ _).trans (l.records.reverse_perm.filter _)

theorem orderable_selected (hl : ∀ r ∈ l.records, r.triggeredAt.isNaive = false) :
    orderable (l.selected f) = true := by
  rw [orderable, Bool.or_eq_true, List.all_eq_true, List.all_eq_true]
  refine .inr fun r hr => ?_
  rw [hl r (List.mem_reverse.1 (List.mem_of_mem_filter hr))]
  rfl

/-- A log whose timestamps carry offsets reads through every filter whose bounds can be told in
UTC. -/
theorem reads_of_aware (hl : ∀ r ∈ l.records, r.triggeredAt.isNaive = false)
    (hf : f.Convertible) : l.Reads f where
  convertible _ := hf
  decides r hr := hf.decides (hl r hr)
  sortable _ := orderable_selected hl

/-- A log whose timestamps carry offsets is listed for every filter whose bounds can be told in
UTC. -/
theorem listing_of_aware (hl : ∀ r ∈ l.records, r.triggeredAt.isNaive = false)
    (hf : f.Convertible) : l.listing f = .ok ((l.selected f).mergeSort newerFirst) :=
  listing_eq_ok_iff.2 ⟨⟨⟨fun _ => hf, fun r hr => hf.decides (hl r hr)⟩,
    orderable_selected hl⟩, rfl⟩

/-! ## Logs in the order of time -/

/-- A log in which every record is later than those before it. -/
structure Ordered (l : Log) : Prop where
  aware : ∀ r ∈ l.records, r.triggeredAt.isNaive = false
  later : l.records.Pairwise fun q r => q.triggeredAt.before r.triggeredAt = true

theorem Ordered.pairwise_selected (h : l.Ordered) (f : ExecutionFilter) :
    (l.selected f).Pairwise fun q r => r.triggeredAt.before q.triggeredAt = true :=
  (List.pairwise_reverse.2 h.later).filter _

theorem Ordered.mergeSort_selected (h : l.Ordered) (f : ExecutionFilter) :
    (l.selected f).mergeSort newerFirst = l.selected f := by
  refine List.mergeSort_of_pairwise ((h.pairwise_selected f).imp fun hlater => ?_)
  simp only [Timestamp.before, decide_eq_true_eq] at hlater
  simp only [newerFirst, Timestamp.before, Bool.not_eq_true', decide_eq_false_iff_not]
  omega

theorem Ordered.mergeSort_selected_byId (h : l.Ordered) (f : ExecutionFilter) :
    (l.selected f).mergeSort newerFirstById = l.selected f := by
  refine List.mergeSort_of_pairwise ((h.pairwise_selected f).imp fun hlater => ?_)
  have hne := hlater
  simp only [Timestamp.before, decide_eq_true_eq] at hne
  rw [newerFirstById, if_neg (by omega), hlater]

theorem Ordered.query_eq (h : l.Ordered) (hf : f.Convertible) {skip limit : Int}
    (hskip : 0 ≤ skip) (hskip' : skip < skipLimit) (hlimit : 0 ≤ limit)
    (hlimit' : limit < skipLimit) :
    l.query f skip limit =
      .ok (((l.selected f).drop skip.toNat).take limit.toNat, (l.selected f).length) := by
  have harranged : l.arranged f = l.selected f := by
    rw [arranged]
    cases l.backend with
    | memory => exact h.mergeSort_selected f
    | database => exact h.mergeSort_selected_byId f
  refine (query_eq_ok_iff hskip hlimit hlimit').2 ⟨reads_of_aware h.aware hf, ?_, by rw [harranged]⟩
  rintro ⟨-, hbeyond⟩
  omega

end Log

/-! ## Pages -/

/-- A request that is acceptable is for a page in range, and its window is left as it is. -/
theorem HistoryRequest.of_check {q : HistoryRequest} {f : ExecutionFilter}
    (h : q.check = .ok f) :
    1 ≤ q.page ∧ 1 ≤ q.limit ∧ q.limit ≤ maxPageSize ∧ f.start = q.filter.start ∧
      f.stop = q.filter.stop := by
  rw [check] at h
  by_cases hpage : q.page < 1
  · rw [if_pos hpage] at h
    cases h
  · rw [if_neg hpage] at h
    by_cases hlimit : q.limit < 1 ∨ (maxPageSize : Int) < q.limit
    · rw [if_pos hlimit] at h
      cases h
    · simp only [if_neg hlimit, bind_eq_ok_iff, pure_eq_ok_iff] at h
      obtain ⟨_, -, _, -, _, -, rfl⟩ := h
      exact ⟨by omega, by omega, by omega, rfl, rfl⟩

namespace Log

variable {l : Log} {q : HistoryRequest} {f : ExecutionFilter}

end Log

end Automation
