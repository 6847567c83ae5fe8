import Automation.Proofs.Execution.History

/-!
# Adjacent windows of time

A stable sort of a list whose members fall into two classes, those of the first before those of the
second, is the sort of the one class followed by the sort of the other (`mergeSort_eq_append`).  An
instant divides the records of a window in this way.  So the listing of a window is that of its
later part followed by that of its earlier part, and the totals of the parts add up
(`Log.windows_tile`).
-/

namespace Automation

/-! ## Sorting two classes -/

section Sorting

variable {α : Type}

/-- What all members of a list pass. -/
theorem filter_of_all {p : α → Bool} {xs : List α} (h : ∀ x ∈ xs, p x = true) :
    xs.filter p = xs ∧ xs.filter (fun x => !p x) = [] :=
  ⟨List.filter_eq_self.2 h, List.filter_eq_nil_iff.2 fun x hx => by simp [h x hx]⟩

/-- What no member of a list passes. -/
theorem filter_of_none {p : α → Bool} {xs : List α} (h : ∀ x ∈ xs, p x = false) :
    xs.filter p = [] ∧ xs.filter (fun x => !p x) = xs :=
  ⟨List.filter_eq_nil_iff.2 fun x hx => by simp [h x hx],
    List.filter_eq_self.2 fun x hx => by simp [h x hx]⟩

variable {le : α → α → Bool}
  (trans : ∀ x y z, le x y = true → le y z = true → le x z = true)
  (total : ∀ x y, (le x y || le y x) = true)

include trans total

/-- A stable sort puts the first member of a list in front of those that are not before it. -/
theorem mergeSort_cons_eq (x : α) (xs : List α) : (x :: xs).mergeSort le =
    (xs.mergeSort le).filter (fun y => !le x y) ++ x :: (xs.mergeSort le).filter (le x) := by
  obtain ⟨front, behind, hcons, hrest, hfront⟩ := List.mergeSort_cons trans total x xs
  have hsorted := List.pairwise_mergeSort trans total (x :: xs)
  rw [hcons] at hsorted
  obtain ⟨hbehind, hnone⟩ :=
    filter_of_all (List.pairwise_cons.1 (List.pairwise_append.1 hsorted).2.1).1
  obtain ⟨hnone', hfront⟩ := filter_of_none fun y hy => Bool.not_eq_true' _ ▸ hfront y hy
  rw [hcons, hrest, List.filter_append, List.filter_append, hfront, hbehind, hnone, hnone',
    List.append_nil, List.nil_append]

/-- A stable sort of two classes, one of which comes before the other. -/
theorem mergeSort_eq_append (p : α → Bool) (xs : List α)
    (h : ∀ x ∈ xs, ∀ y ∈ xs, p x = true → p y = false → le y x = false) : xs.mergeSort le =
      (xs.filter p).mergeSort le ++ (xs.filter fun x => !p x).mergeSort le := by
  induction xs with
  | nil => simp
  | cons x xs ih =>
    have ih := ih fun y hy z hz => h y (List.mem_cons_of_mem x hy) z (List.mem_cons_of_mem x hz)
    rw [mergeSort_cons_eq trans total, ih, List.filter_append, List.filter_append]
    cases hx : p x with
    | true =>
      -- All of the second class stay behind `x`.
      have hsecond : ∀ y ∈ (xs.filter fun y => !p y).mergeSort le, le x y = true := by
        intro y hy
        obtain ⟨hmem, hy⟩ := List.mem_filter.1 (List.mem_mergeSort.1 hy)
        have hnot := h x List.mem_cons_self y (List.mem_cons_of_mem x hmem) hx (by simpa using hy)
        simpa [hnot] using total x y
      obtain ⟨hall, hnone⟩ := filter_of_all hsecond
      rw [hall, hnone, List.append_nil, List.filter_cons_of_pos hx,
        List.filter_cons_of_neg (by simp [hx]), mergeSort_cons_eq trans total, List.append_assoc,
        List.cons_append]
    | false =>
      -- All of the first class stay in front of `x`.
      have hfirst : ∀ y ∈ (xs.filter p).mergeSort le, le x y = false := by
        intro y hy
        obtain ⟨hmem, hy⟩ := List.mem_filter.1 (List.mem_mergeSort.1 hy)
        exact h y (List.mem_cons_of_mem x hmem) x List.mem_cons_self hy hx
      obtain ⟨hnone, hall⟩ := filter_of_none hfirst
      rw [hall, hnone, List.nil_append, List.filter_cons_of_neg (by simp [hx]),
        List.filter_cons_of_pos (by simp [hx]), mergeSort_cons_eq trans total, List.append_assoc]

end Sorting

/-- A check that fails in one way, or tells whether a member is wanted. -/
theorem filterChecked_eq_ite {α : Type} {check : α → Except Fault Bool} {fails p : α → Bool}
    {e : Fault} (h : ∀ x, check x = if fails x then .error e else .ok (p x)) (xs : List α) :
    filterChecked check xs = if xs.any fails then .error e else .ok (xs.filter p) := by
  induction xs with
  | nil => rfl
  | cons x xs ih =>
    rw [filterChecked, h, ih, List.any_cons, List.filter_cons]
    cases fails x with
    | true => rfl
    | false =>
      cases xs.any fails with
      | true => rfl
      | false => cases p x <;> rfl

/-! ## Windows -/

namespace ExecutionFilter

variable {f : ExecutionFilter} {a b c : Timestamp} {r : ExecutionRecord}

/-- The filter with a window of time, from `a` to before `c`. -/
def during (f : ExecutionFilter) (a c : Timestamp) : ExecutionFilter :=
  { f with start := some a, stop := some c }

/-- A record has the wanted names, and its timestamp cannot be held against a window. -/
def cannotPlace (f : ExecutionFilter) (r : ExecutionRecord) : Bool :=
  decide (f.Names r) && r.triggeredAt.isNaive

/-- A window includes its start and not its end. -/
theorem selects_during : (f.during a c).selects r = true ↔ f.Names r ∧
    a.utcClock ≤ r.triggeredAt.utcClock ∧ r.triggeredAt.utcClock < c.utcClock := by
  have hnames : (f.during a c).Names r ↔ f.Names r := f.names_within_iff _ _ r
  show (decide ((f.during a c).Names r) && !decide (r.triggeredAt.utcClock < a.utcClock) &&
    decide (r.triggeredAt.utcClock < c.utcClock)) = true ↔ _
  simp [hnames, and_assoc]

/-- A timestamp without an offset cannot be held against a bound told in UTC. -/
theorem notBefore_of_isNaive {t bound : Timestamp} (hbound : bound.Convertible)
    (hnaive : t.isNaive = true) : notBefore t (some bound) = .error orderFault := by
  have hmixed : t.checkBefore bound.toUtc = .error orderFault := by
    rw [Timestamp.checkBefore, Timestamp.comparable, hnaive]
    rfl
  rw [notBefore, Timestamp.inUtc_eq hbound]
  show (do return !(← t.checkBefore bound.toUtc)) = _
  rw [hmixed]
  rfl

/-- A window whose bounds can be told in UTC places every record that carries an offset. -/
theorem admits_during (ha : a.Convertible) (hc : c.Convertible) (r : ExecutionRecord) :
    (f.during a c).admits r =
      if f.cannotPlace r then .error orderFault else .ok ((f.during a c).selects r) := by
  have hnames : (f.during a c).Names r ↔ f.Names r := f.names_within_iff _ _ r
  cases hcannot : f.cannotPlace r with
  | true =>
    obtain ⟨hwanted, hnaive⟩ := Bool.and_eq_true_iff.1 hcannot
    have hadmits := admitsNames_iff.2 (hnames.2 (of_decide_eq_true hwanted))
    have hstart : notBefore r.triggeredAt (f.during a c).start = .error orderFault :=
      notBefore_of_isNaive ha hnaive
    rw [admits, hadmits, hstart]
    rfl
  | false =>
    have hmeets : f.Names r → ∀ bound, bound = some a ∨ bound = some c →
        r.triggeredAt.Meets bound := by
      rintro hwanted bound hbound u hu
      have haware : r.triggeredAt.isNaive = false := by simpa [cannotPlace, hwanted] using hcannot
      rcases hbound with rfl | rfl <;> cases hu
      · exact ⟨ha, haware⟩
      · exact ⟨hc, haware⟩
    refine admits_eq_ok_iff.2 ⟨⟨fun h => ?_, fun h _ => ?_⟩, rfl⟩
    · exact hmeets (hnames.1 h) _ (.inl rfl)
    · exact hmeets (hnames.1 h) _ (.inr rfl)

end ExecutionFilter

namespace Log

variable {l : Log} {f : ExecutionFilter} {a b c : Timestamp}

/-- In memory a window is listed if all records with the wanted names carry an offset. -/
theorem listing_during (hmemory : l.backend = .memory) (ha : a.Convertible) (hc : c.Convertible) :
    l.listing (f.during a c) = if l.records.any f.cannotPlace then .error orderFault
      else .ok ((l.selected (f.during a c)).mergeSort newerFirst) := by
  have hwanted : l.wanted (f.during a c) = if l.records.any f.cannotPlace then .error orderFault
      else .ok (l.selected (f.during a c)) := by
    have hchecked := filterChecked_eq_ite (f.admits_during ha hc) l.records.reverse
    rw [List.any_reverse] at hchecked
    rw [wanted, hmemory]
    exact hchecked
  rw [listing, hwanted]
  cases hcannot : l.records.any f.cannotPlace with
  | true => rfl
  | false =>
    have hsortable : orderable (l.selected (f.during a c)) = true := by
      rw [orderable, Bool.or_eq_true]
      refine .inr (List.all_eq_true.2 fun r hr => ?_)
      obtain ⟨hmem, hselects⟩ := List.mem_filter.1 hr
      have hplaced := List.any_eq_false.1 hcannot r (List.mem_reverse.1 hmem)
      have hwanted := (ExecutionFilter.selects_during.1 hselects).1
      simpa [ExecutionFilter.cannotPlace, hwanted] using hplaced
    show (if orderable (l.selected (f.during a c)) = true then _ else _) = _
    rw [if_pos hsortable]
    rfl

/-- What a window selects from an instant on is what the window from that instant selects. -/
theorem filter_selected_during (hab : a.utcClock ≤ b.utcClock) :
    (l.selected (f.during a c)).filter (fun r => !r.triggeredAt.before b) =
      l.selected (f.during b c) := by
  rw [selected, List.filter_filter]
  refine List.filter_congr fun r _ => Bool.eq_iff_iff.2 ?_
  rw [Bool.and_eq_true, ExecutionFilter.selects_during, ExecutionFilter.selects_during,
    Timestamp.before, Bool.not_eq_true', decide_eq_false_iff_not, Int.not_lt]
  constructor
  · rintro ⟨hb, hnames, -, hc⟩
    exact ⟨hnames, hb, hc⟩
  · rintro ⟨hnames, hb, hc⟩
    exact ⟨hb, hnames, hab.trans hb, hc⟩

/-- What a window selects before an instant is what the window up to that instant selects. -/
theorem filter_not_selected_during (hbc : b.utcClock ≤ c.utcClock) :
    (l.selected (f.during a c)).filter (fun r => !!r.triggeredAt.before b) =
      l.selected (f.during a b) := by
  rw [selected, List.filter_filter]
  refine List.filter_congr fun r _ => Bool.eq_iff_iff.2 ?_
  rw [Bool.and_eq_true, ExecutionFilter.selects_during, ExecutionFilter.selects_during,
    Timestamp.before, Bool.not_not, decide_eq_true_eq]
  constructor
  · rintro ⟨hb, hnames, ha, -⟩
    exact ⟨hnames, ha, hb⟩
  · rintro ⟨hnames, ha, hb⟩
    exact ⟨hb, hnames, ha, hb.trans_le hbc⟩

/-- The sorted records of a window are those of its later part, then those of its earlier part. -/
theorem mergeSort_selected_during (hab : a.utcClock ≤ b.utcClock) (hbc : b.utcClock ≤ c.utcClock) :
    (l.selected (f.during a c)).mergeSort newerFirst =
      (l.selected (f.during b c)).mergeSort newerFirst ++
        (l.selected (f.during a b)).mergeSort newerFirst := by
  rw [mergeSort_eq_append newerFirst_trans newerFirst_total (fun r => !r.triggeredAt.before b),
    filter_selected_during hab, filter_not_selected_during hbc]
  intro r _ q _ hr hq
  simp only [Timestamp.before, Bool.not_eq_true', decide_eq_false_iff_not, Int.not_lt,
    Bool.not_eq_false', decide_eq_true_eq] at hr hq
  rw [Bool.eq_false_iff, ne_eq, newerFirst_iff]
  omega

theorem length_selected_during (hab : a.utcClock ≤ b.utcClock) (hbc : b.utcClock ≤ c.utcClock) :
    (l.selected (f.during a c)).length =
      (l.selected (f.during b c)).length + (l.selected (f.during a b)).length := by
  have hlength := congrArg List.length (mergeSort_selected_during (l := l) (f := f) hab hbc)
  simpa only [List.length_append, List.length_mergeSort] using hlength

/-- In memory the total of a query is the length of the listing. -/
theorem total_query (hmemory : l.backend = .memory) (f : ExecutionFilter) (skip limit : Int) :
    (l.query f skip limit).map (·.2) = (l.listing f).map List.length := by
  rw [query, hmemory]
  cases l.listing f <;> rfl

/-- In memory a log that is listed through a filter reads through it. -/
theorem reads_of_listing (hmemory : l.backend = .memory) {rs : List ExecutionRecord}
    (h : l.listing f = .ok rs) : l.Reads f := by
  obtain ⟨⟨⟨-, hdecides⟩, hsortable⟩, -⟩ := listing_eq_ok_iff.1 h
  refine ⟨fun hdatabase => ?_, hdecides, fun _ => hsortable⟩
  rw [hmemory] at hdatabase
  cases hdatabase

/-- All records with the wanted names carry an offset. -/
def Places (l : Log) (f : ExecutionFilter) : Prop :=
  ∀ r ∈ l.records, f.Names r → r.triggeredAt.isNaive = false

theorem any_cannotPlace_eq_false_iff : l.records.any f.cannotPlace = false ↔ l.Places f := by
  rw [List.any_eq_false, Places]
  refine forall₂_congr fun r _ => ?_
  simp [ExecutionFilter.cannotPlace]

theorem listing_during_given_iff (hmemory : l.backend = .memory) (ha : a.Convertible)
    (hc : c.Convertible) : (∃ rs, l.listing (f.during a c) = .ok rs) ↔ l.Places f := by
  rw [listing_during hmemory ha hc, ← any_cannotPlace_eq_false_iff]
  cases l.records.any f.cannotPlace <;> simp

/-- The listing of a window is that of its later part followed by that of its earlier part. -/
theorem listing_during_append (hmemory : l.backend = .memory) (ha : a.Convertible)
    (hb : b.Convertible) (hc : c.Convertible) (hab : a.utcClock ≤ b.utcClock)
    (hbc : b.utcClock ≤ c.utcClock) : l.listing (f.during a c) = do
      let late ← l.listing (f.during b c)
      let early ← l.listing (f.during a b)
      return late ++ early := by
  rw [listing_during hmemory ha hc, listing_during hmemory hb hc, listing_during hmemory ha hb]
  cases l.records.any f.cannotPlace with
  | true => rfl
  | false => exact congrArg Except.ok (mergeSort_selected_during hab hbc)

theorem perm_listing_during {rs : List ExecutionRecord} (h : l.listing (f.during a c) = .ok rs) :
    rs.Perm (l.records.filter fun r => decide (f.Names r)
      && decide (a.utcClock ≤ r.triggeredAt.utcClock)
      && decide (r.triggeredAt.utcClock < c.utcClock)) := by
  have hselects : (f.during a c).selects = fun r => decide (f.Names r)
      && decide (a.utcClock ≤ r.triggeredAt.utcClock)
      && decide (r.triggeredAt.utcClock < c.utcClock) := by
    funext r
    rw [Bool.eq_iff_iff, ExecutionFilter.selects_during]
    simp [and_assoc]
  rw [← hselects]
  exact perm_of_listing h

end Log

/-! ## Pages -/

namespace HistoryRequest

variable {q : HistoryRequest} {a c : Timestamp}

/-- A request for a window of time. -/
def during (q : HistoryRequest) (a c : Timestamp) : HistoryRequest :=
  { q with filter := q.filter.during a c }

theorem Named.during {eventType : Value} (h : q.Named eventType) (a c : Timestamp) :
    (q.during a c).Named eventType where
  page := h.page
  limit := h.limit
  size := h.size
  status := h.status
  eventType := h.eventType

end HistoryRequest

namespace Log

variable {l : Log} {q : HistoryRequest} {a b c : Timestamp}

/-- The total of a page of a window is the number of records that the window selects. -/
theorem total_of_history_during {p : HistoryPage} (h : l.history (q.during a c) = .ok p) :
    ∃ eventType, HistoryRequest.WantsEvent q.filter.eventType eventType ∧ p.total =
      (l.selected (({ q.filter with eventType } : ExecutionFilter).during a c)).length := by
  obtain ⟨eventType, hnamed, -, -, -, -, rfl⟩ := history_given_iff.1 h
  exact ⟨eventType, hnamed.eventType, rfl⟩

/-- In memory a page of a window is given if the window is not empty and places the records. -/
theorem exists_history_during (hmemory : l.backend = .memory) {eventType : Value}
    (hnamed : q.Named eventType) (ha : a.Convertible) (hc : c.Convertible)
    (hsame : a.isNaive = c.isNaive) (hac : a.utcClock < c.utcClock)
    (hplaces : l.Places { q.filter with eventType }) :
    ∃ p, l.history (q.during a c) = .ok p := by
  obtain ⟨rs, hlisting⟩ := (listing_during_given_iff hmemory ha hc).2 hplaces
  refine ⟨_, history_given_iff.2
    ⟨eventType, hnamed.during a c, ?_, ?_, reads_of_listing hmemory hlisting, ?_, rfl⟩⟩
  · rintro _ ⟨⟩ _ ⟨⟩
    exact hsame
  · rintro _ ⟨⟩ _ ⟨⟩
    exact hac
  · rintro ⟨hdatabase, -⟩
    rw [hmemory] at hdatabase
    cases hdatabase

/-- The totals of the pages of two adjacent windows add up. -/
theorem total_history_during (hab : a.utcClock ≤ b.utcClock) (hbc : b.utcClock ≤ c.utcClock)
    {p late early : HistoryPage} (hp : l.history (q.during a c) = .ok p)
    (hlate : l.history (q.during b c) = .ok late) (hearly : l.history (q.during a b) = .ok early) :
    p.total = late.total + early.total := by
  obtain ⟨eventType, hevent, htotal⟩ := total_of_history_during hp
  obtain ⟨_, hevent', hlate⟩ := total_of_history_during hlate
  obtain ⟨_, hevent'', hearly⟩ := total_of_history_during hearly
  obtain rfl := hevent.unique hevent'
  obtain rfl := hevent.unique hevent''
  rw [htotal, hlate, hearly, length_selected_during hab hbc]

/-- In memory adjacent windows of time tile, whatever names are wanted.

For instants `a`, `b` and `c` in this order, told in any way: the listing of the window from `a` to
before `c` is that of the window from `b` followed by that of the window up to `b`, and if one of
these is not given the others are not.  It is given exactly if all records with the wanted names
carry an offset, and then it has the records with these names from `a` to before `c`, each as often
as the log has it.  The totals of queries add up in the same way.  So do the totals of pages of the
history, wherever these are given, and they are for a request that is right apart from its window
and for instants that differ and are all told with an offset or all without one. -/
theorem windows_tile (l : Log) (hmemory : l.backend = .memory) {a b c : Timestamp}
    (ha : a.Convertible) (hb : b.Convertible) (hc : c.Convertible)
    (hab : a.utcClock ≤ b.utcClock) (hbc : b.utcClock ≤ c.utcClock) :
    (∀ f : ExecutionFilter,
      (l.listing (f.during a c) = do
        let late ← l.listing (f.during b c)
        let early ← l.listing (f.during a b)
        return late ++ early) ∧
      (∀ skip limit, (l.query (f.during a c) skip limit).map (·.2) = do
        let late ← (l.query (f.during b c) skip limit).map (·.2)
        let early ← (l.query (f.during a b) skip limit).map (·.2)
        return late + early) ∧
      ((∃ rs, l.listing (f.during a c) = .ok rs) ↔ l.Places f) ∧
      ∀ rs, l.listing (f.during a c) = .ok rs → rs.Perm (l.records.filter fun r =>
        decide (f.Names r) && decide (a.utcClock ≤ r.triggeredAt.utcClock)
          && decide (r.triggeredAt.utcClock < c.utcClock))) ∧
    ∀ q : HistoryRequest,
      (∀ p late early, l.history (q.during a c) = .ok p → l.history (q.during b c) = .ok late →
        l.history (q.during a b) = .ok early → p.total = late.total + early.total) ∧
      ∀ eventType, q.Named eventType → a.isNaive = b.isNaive → b.isNaive = c.isNaive →
        a.utcClock < b.utcClock → b.utcClock < c.utcClock →
        l.Places { q.filter with eventType } →
        ∃ p late early, l.history (q.during a c) = .ok p ∧ l.history (q.during b c) = .ok late ∧
          l.history (q.during a b) = .ok early := by
  refine ⟨fun f => ?_, fun q => ⟨fun p late early => total_history_during hab hbc, ?_⟩⟩
  · have htiles := listing_during_append (f := f) hmemory ha hb hc hab hbc
    refine ⟨htiles, fun skip limit => ?_, listing_during_given_iff hmemory ha hc,
      fun rs => perm_listing_during⟩
    rw [total_query hmemory, total_query hmemory, total_query hmemory, htiles]
    cases l.listing (f.during b c) with
    | error e => rfl
    | ok late =>
      cases l.listing (f.during a b) with
      | error e => rfl
      | ok early => exact congrArg Except.ok List.length_append
  · intro eventType hnamed hsame hsame' hab' hbc' hplaces
    obtain ⟨p, hp⟩ := exists_history_during hmemory hnamed ha hc (hsame.trans hsame')
      (hab'.trans hbc') hplaces
    obtain ⟨late, hlate⟩ := exists_history_during hmemory hnamed hb hc hsame' hbc' hplaces
    obtain ⟨early, hearly⟩ := exists_history_during hmemory hnamed ha hb hsame hab' hplaces
    exact ⟨p, late, early, hp, hlate, hearly⟩

/-- Four records of a workflow, two of which share an instant, and one of another workflow, which
shares it too and carries no offset. -/
def shared : Log :=
  let records : List (String × String × Timestamp) :=
    [("a", "w", ⟨0, some 0⟩), ("b", "w", ⟨5, some 0⟩), ("x", "v", ⟨5, none⟩),
      ("c", "w", ⟨5, some 0⟩), ("d", "w", ⟨9, some 0⟩)]
  ⟨.memory, records.map fun (id, workflowId, triggeredAt) =>
    ⟨id, workflowId, .customerCreated, triggeredAt, .success, [], .int 0⟩⟩

/-- The filter for the successes of a workflow. -/
def ofShared : ExecutionFilter := { workflowId := .text "w", status := .text "success" }

/-- Windows that meet at the shared instant, which the one ends with and the other starts with.  The
record of the other workflow is in none of them. -/
theorem windows_tile_shared : ∃ late early,
    shared.listing (ofShared.during ⟨6, some 1⟩ ⟨10, none⟩) = .ok late ∧
    shared.listing (ofShared.during ⟨0, none⟩ ⟨6, some 1⟩) = .ok early ∧
    shared.listing (ofShared.during ⟨0, none⟩ ⟨10, none⟩) = .ok (late ++ early) ∧
    (late.map (·.id)).Perm ["b", "c", "d"] ∧ early.map (·.id) = ["a"] := by
  have hplaces : shared.Places ofShared := by
    rw [Places]
    decide
  obtain ⟨hlistings, -⟩ := windows_tile shared rfl (a := ⟨0, none⟩) (b := ⟨6, some 1⟩)
    (c := ⟨10, none⟩) rfl rfl rfl (by decide) (by decide)
  obtain ⟨htiles, -, hgiven, -⟩ := hlistings ofShared
  obtain ⟨rs, hrs⟩ := hgiven.2 hplaces
  obtain ⟨late, hlate, hrest⟩ := bind_eq_ok_iff.1 (htiles.symm.trans hrs)
  obtain ⟨early, hearly, heq⟩ := bind_eq_ok_iff.1 hrest
  cases heq
  exact ⟨late, early, hlate, hearly, hrs, (perm_listing_during hlate).map (·.id),
    List.perm_singleton.1 ((perm_listing_during hearly).map (·.id))⟩

end Log

end Automation
