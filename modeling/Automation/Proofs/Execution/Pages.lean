import Automation.Proofs.Execution.History
import Mathlib.Data.List.Pairwise

/-!
# The pages of the history

The pages of one size, put one after the other, are the records that the filter selects, each once
and in one order (`Engine.pages_partition`).  The newest records come first.  Of two records of one
instant memory has the one first that was appended last, since the sort keeps such records in the
order in which it finds them, and the database has the one first whose identifier is greater
(`Log.pairwise_arranged`).
-/

namespace Automation

/-! ## Lists -/

/-- The first pieces of a list, put one after the other, are a front of the list. -/
theorem flatMap_pieces {α : Type} (xs : List α) (size count : Nat) :
    (List.range count).flatMap (fun i => (xs.drop (i * size)).take size) =
      xs.take (count * size) := by
  induction count with
  | zero => simp
  | succ count ih =>
    rw [List.range_succ, List.flatMap_append, ih, Nat.succ_mul, List.take_add]
    simp

/-- Of two members of a list without repetition only one comes before the other. -/
theorem not_pair_sublist {α : Type} {xs : List α} (h : xs.Nodup) :
    ∀ {x y : α}, [x, y].Sublist xs → ¬ [y, x].Sublist xs := by
  induction xs with
  | nil =>
    intro x y hxy
    cases hxy
  | cons z zs ih =>
    obtain ⟨hz, hzs⟩ := List.nodup_cons.1 h
    intro x y hxy hyx
    cases hxy with
    | cons _ hxy =>
      cases hyx with
      | cons _ hyx => exact ih hzs hxy hyx
      | cons_cons _ hx => exact hz (hxy.subset (by simp))
    | cons_cons _ hy =>
      cases hyx with
      | cons _ hyx => exact hz (hyx.subset (by simp))
      | cons_cons _ _ => exact hz (hy.subset (by simp))

/-- Of two members of a list one comes before the other. -/
theorem pair_sublist_or {α : Type} {xs : List α} {x y : α} (hx : x ∈ xs) (hy : y ∈ xs)
    (hne : x ≠ y) : [x, y].Sublist xs ∨ [y, x].Sublist xs := by
  have hsymm : Std.Symm fun a b => [a, b].Sublist xs ∨ [b, a].Sublist xs := ⟨fun _ _ => Or.symm⟩
  have hpairs : xs.Pairwise fun a b => [a, b].Sublist xs ∨ [b, a].Sublist xs :=
    List.pairwise_iff_forall_sublist.2 Or.inl
  exact hpairs.forall hx hy hne

/-! ## The order of the pages -/

namespace Log

variable {l : Log} {f : ExecutionFilter}

/-- A record comes before another one on the pages. -/
inductive Precedes (l : Log) (r q : ExecutionRecord) : Prop where
  | newer (newer : q.triggeredAt.utcClock < r.triggeredAt.utcClock)
  | appended (memory : l.backend = .memory)
      (same : r.triggeredAt.utcClock = q.triggeredAt.utcClock)
      (later : [q, r].Sublist l.records)
  | identified (database : l.backend = .database)
      (same : r.triggeredAt.utcClock = q.triggeredAt.utcClock) (greater : q.id < r.id)

theorem newerFirstById_iff {q r : ExecutionRecord} :
    newerFirstById q r = true ↔ r.triggeredAt.utcClock < q.triggeredAt.utcClock ∨
      q.triggeredAt.utcClock = r.triggeredAt.utcClock ∧ r.id ≤ q.id := by
  rw [newerFirstById]
  by_cases hsame : q.triggeredAt.utcClock = r.triggeredAt.utcClock
  · simp [hsame]
  · simp [hsame, Timestamp.before]

theorem newerFirstById_trans (p q r : ExecutionRecord) (hpq : newerFirstById p q = true)
    (hqr : newerFirstById q r = true) : newerFirstById p r = true := by
  rw [newerFirstById_iff] at *
  rcases hpq with hpq | ⟨hpq, hid⟩ <;> rcases hqr with hqr | ⟨hqr, hid'⟩
  · exact .inl (by omega)
  · exact .inl (by omega)
  · exact .inl (by omega)
  · exact .inr ⟨by omega, String.le_trans hid' hid⟩

theorem newerFirstById_total (q r : ExecutionRecord) :
    (newerFirstById q r || newerFirstById r q) = true := by
  rw [Bool.or_eq_true, newerFirstById_iff, newerFirstById_iff]
  rcases Int.lt_trichotomy q.triggeredAt.utcClock r.triggeredAt.utcClock with h | h | h
  · exact .inr (.inl h)
  · rcases String.le_total q.id r.id with hid | hid
    · exact .inr (.inr ⟨h.symm, hid⟩)
    · exact .inl (.inr ⟨h, hid⟩)
  · exact .inl (.inl h)

theorem perm_arranged (l : Log) (f : ExecutionFilter) :
    (l.arranged f).Perm (l.records.filter f.selects) :=
  (List.mergeSort_perm _ _).trans (l.records.reverse_perm.filter _)

theorem nodup_arranged (h : (l.records.map (·.id)).Nodup) :
    ((l.arranged f).map (·.id)).Nodup := by
  rw [((l.perm_arranged f).map _).nodup_iff]
  exact h.sublist (List.filter_sublist.map _)

/-- In memory, of two records of one instant the one that was appended last comes first. -/
theorem pairwise_arranged_memory (hmemory : l.backend = .memory)
    (h : (l.records.map (·.id)).Nodup) : (l.arranged f).Pairwise l.Precedes := by
  have hnodup : (l.arranged f).Nodup := (nodup_arranged h).of_map _
  rw [arranged, hmemory] at hnodup ⊢
  refine List.pairwise_iff_forall_sublist.2 fun {r q} hpair => ?_
  have hnewer : newerFirst r q = true := List.pairwise_iff_forall_sublist.1
    (List.pairwise_mergeSort newerFirst_trans newerFirst_total (l.selected f)) hpair
  rcases (newerFirst_iff.1 hnewer).lt_or_eq with hlt | heq
  · exact .newer hlt
  · refine .appended hmemory heq.symm ?_
    have hne : r ≠ q := by
      have := hnodup.sublist hpair
      simpa using this
    have hmem : ∀ {x}, x ∈ [r, q] → x ∈ l.selected f := fun hx =>
      (List.mergeSort_perm _ _).mem_iff.1 (hpair.subset hx)
    rcases pair_sublist_or (hmem (x := r) (by simp)) (hmem (x := q) (by simp)) hne with
      hrq | hqr
    · exact List.reverse_sublist.1 (hrq.trans List.filter_sublist)
    · -- The sort would have kept this order.
      have hkept : [q, r].Sublist ((l.selected f).mergeSort newerFirst) :=
        List.pair_sublist_mergeSort newerFirst_trans newerFirst_total
          (newerFirst_iff.2 heq.symm.le) hqr
      exact absurd hkept (not_pair_sublist hnodup hpair)

/-- In the database, of two records of one instant the one with the greater identifier comes
first. -/
theorem pairwise_arranged_database (hdatabase : l.backend = .database)
    (h : (l.records.map (·.id)).Nodup) : (l.arranged f).Pairwise l.Precedes := by
  have hdistinct : (l.arranged f).Pairwise fun r q => r.id ≠ q.id :=
    List.pairwise_map.1 (nodup_arranged h)
  rw [arranged, hdatabase] at hdistinct ⊢
  refine ((List.pairwise_mergeSort newerFirstById_trans newerFirstById_total
    (l.selected f)).and hdistinct).imp ?_
  rintro r q ⟨hnewer, hne⟩
  rcases newerFirstById_iff.1 hnewer with hlt | ⟨heq, hle⟩
  · exact .newer hlt
  · exact .identified hdatabase heq
      (String.not_le.1 fun hge => hne (String.le_antisymm hge hle))

theorem pairwise_arranged (h : (l.records.map (·.id)).Nodup) :
    (l.arranged f).Pairwise l.Precedes := by
  cases hbackend : l.backend with
  | memory => exact pairwise_arranged_memory hbackend h
  | database => exact pairwise_arranged_database hbackend h

end Log

/-! ## The pages -/

namespace HistoryRequest

variable {q : HistoryRequest}

/-- A request for another page. -/
def onPage (q : HistoryRequest) (i : Nat) : HistoryRequest := { q with page := i + 1 }

theorem Named.onPage {eventType : Value} (h : q.Named eventType) (i : Nat) :
    (q.onPage i).Named eventType where
  page := by
    show (1 : Int) ≤ (i : Int) + 1
    omega
  limit := h.limit
  size := h.size
  status := h.status
  eventType := h.eventType

theorem skip_onPage (h : 0 ≤ q.limit) (i : Nat) :
    (q.onPage i).skip = (i * q.limit.toNat : Nat) := by
  show ((i : Int) + 1 - 1) * q.limit = _
  rw [Int.add_sub_cancel, Int.natCast_mul, Int.toNat_of_nonneg h]

end HistoryRequest

/-- The number of pages of a size that records fill. -/
def pagesFor (total size : Nat) : Nat := (total + size - 1) / size

/-- The pages have room for all records. -/
theorem le_pagesFor_mul {total size : Nat} (h : 0 < size) : total ≤ pagesFor total size * size := by
  have hdiv := Nat.div_add_mod (total + size - 1) size
  have hmod := Nat.mod_lt (total + size - 1) h
  rw [Nat.mul_comm] at hdiv
  rw [pagesFor]
  omega

/-- The pages before one of the pages do not have room for all records. -/
theorem mul_lt_of_lt_pagesFor {total size i : Nat} (h : i < pagesFor total size) :
    i * size < total := by
  have hle : (i + 1) * size ≤ total + size - 1 :=
    (Nat.mul_le_mul_right size h).trans (Nat.div_mul_le_self _ _)
  have hpos : 0 < size := by
    rcases Nat.eq_zero_or_pos size with rfl | hpos
    · simp [pagesFor] at h
    · exact hpos
  rw [Nat.succ_mul] at hle
  omega

namespace Log

variable {q : HistoryRequest}

theorem data_onPage (l : Log) (f : ExecutionFilter) (h : 0 ≤ q.limit) (i : Nat) :
    (l.pageOf f (q.onPage i)).data =
      ((l.arranged f).drop (i * q.limit.toNat)).take q.limit.toNat := by
  show ((l.arranged f).drop (q.onPage i).skip.toNat).take q.limit.toNat = _
  rw [HistoryRequest.skip_onPage h, Int.toNat_natCast]

/-- As many pages of a size as a filter selects records to fill. -/
def pages (l : Log) (f : ExecutionFilter) (q : HistoryRequest) : List HistoryPage :=
  (List.range (pagesFor (l.arranged f).length q.limit.toNat)).map fun i =>
    l.pageOf f (q.onPage i)

theorem getElem_pages (l : Log) (f : ExecutionFilter) {i : Nat} (h : i < (l.pages f q).length) :
    (l.pages f q)[i] = l.pageOf f (q.onPage i) := by
  simp [pages]

/-- Every page tells how many pages there are. -/
theorem totalPages_pageOf (l : Log) (f : ExecutionFilter) (h : 1 ≤ q.limit) (i : Nat) :
    (l.pageOf f (q.onPage i)).totalPages = (l.pages f q).length := by
  have hlimit : (q.limit.toNat : Int) = q.limit := Int.toNat_of_nonneg (by omega)
  have hlength : (l.selected f).length = (l.arranged f).length := (List.length_mergeSort _).symm
  show (((l.selected f).length : Int) + q.limit - 1) / q.limit = _
  rw [hlength, ← hlimit, pages, List.length_map, List.length_range, pagesFor, Int.natCast_ediv,
    Int.natCast_sub (by omega)]
  rfl

/-- The pages, put one after the other, are all that is selected. -/
theorem flatMap_data_pages (l : Log) (f : ExecutionFilter) (h : 1 ≤ q.limit) :
    (l.pages f q).flatMap (·.data) = l.arranged f := by
  have hdata : (fun i => (l.pageOf f (q.onPage i)).data) =
      fun i => ((l.arranged f).drop (i * q.limit.toNat)).take q.limit.toNat :=
    funext fun i => l.data_onPage f (by omega) i
  rw [pages, List.flatMap_map, hdata, flatMap_pieces,
    List.take_of_length_le (le_pagesFor_mul (by omega))]

/-- A page that is not the last one is full. -/
theorem length_data_pages (l : Log) (f : ExecutionFilter) (h : 1 ≤ q.limit) {i : Nat}
    (hi : i + 1 < (l.pages f q).length) :
    ((l.pages f q)[i].data.length : Int) = q.limit := by
  have hlast : i + 1 < pagesFor (l.arranged f).length q.limit.toNat := by simpa [pages] using hi
  have hroom := mul_lt_of_lt_pagesFor hlast
  rw [Nat.succ_mul] at hroom
  rw [getElem_pages, data_onPage l f (by omega), List.length_take, List.length_drop,
    Nat.min_eq_left (by omega)]
  omega

end Log

namespace Engine

/-- The pages of one size partition the records that a filter selects, on both backends.

For a log whose records have distinct identifiers, and a request that passes its checks and has a
filter through which the log can be read: there are as many pages as the records that the filter
selects fill, and every one of them is given and tells how many pages and records there are.  Put
one after the other the pages are these records, each once, in the order of `Log.Precedes`; every
page but the last is full.  The database is one that can count its records. -/
theorem pages_partition (s : Engine) (q : HistoryRequest) (eventType : Value)
    (distinct : (s.log.records.map (·.id)).Nodup)
    (counted : s.log.backend = .database → s.log.records.length ≤ Log.skipLimit)
    (named : q.Named eventType) (comparable : q.Comparable) (ascending : q.Ascending)
    (reads : s.log.Reads { q.filter with eventType }) :
    ∃ pages : List HistoryPage,
      (∀ i, (h : i < pages.length) → s.history (q.onPage i) = .ok pages[i]) ∧
      (∀ p ∈ pages, p.totalPages = pages.length ∧ p.total = s.log.records.countP
        ({ q.filter with eventType } : ExecutionFilter).selects) ∧
      pages.length = pagesFor (s.log.records.countP
        ({ q.filter with eventType } : ExecutionFilter).selects) q.limit.toNat ∧
      (pages.flatMap (·.data)).Perm (s.log.records.filter
        ({ q.filter with eventType } : ExecutionFilter).selects) ∧
      (pages.flatMap (·.data)).Nodup ∧
      (pages.flatMap (·.data)).Pairwise s.log.Precedes ∧
      ∀ i, (h : i + 1 < pages.length) → (pages[i].data.length : Int) = q.limit := by
  have htotal : (s.log.arranged { q.filter with eventType }).length = s.log.records.countP
      ({ q.filter with eventType } : ExecutionFilter).selects := by
    rw [List.countP_eq_length_filter, (s.log.perm_arranged _).length_eq]
  have hlimit : 1 ≤ q.limit := named.limit
  have hdata := s.log.flatMap_data_pages { q.filter with eventType } hlimit
  refine ⟨s.log.pages { q.filter with eventType } q, ?_, ?_, ?_, ?_, ?_, ?_,
    fun i hi => s.log.length_data_pages _ hlimit hi⟩
  · intro i hi
    have hbefore : i * q.limit.toNat < (s.log.arranged { q.filter with eventType }).length :=
      mul_lt_of_lt_pagesFor (by simpa [Log.pages] using hi)
    have hfits : ¬ s.log.Overflows (q.onPage i).skip := by
      rintro ⟨hdatabase, hbeyond⟩
      have hcounted := counted hdatabase
      have hlength := (s.log.perm_arranged { q.filter with eventType }).length_eq.trans_le
        (List.length_filter_le _ _)
      rw [HistoryRequest.skip_onPage (by omega)] at hbeyond
      omega
    rw [Log.getElem_pages]
    exact history_ok_iff.2
      ⟨eventType, named.onPage i, comparable, ascending, reads, hfits, rfl⟩
  · intro p hp
    obtain ⟨i, -, rfl⟩ := List.mem_map.1 hp
    refine ⟨s.log.totalPages_pageOf _ hlimit i, ?_⟩
    rw [← htotal]
    exact (List.length_mergeSort _).symm
  · simp [Log.pages, htotal]
  · rw [hdata]
    exact s.log.perm_arranged _
  · rw [hdata]
    exact (Log.nodup_arranged distinct).of_map _
  · rw [hdata]
    exact Log.pairwise_arranged distinct

/-- The three records that are wanted fill two pages, and the others are on none. -/
theorem pages_partition_crowded :
    ∃ pages : List HistoryPage, pages.length = 2 ∧
      (∀ i, (h : i < pages.length) → crowded.history (successes.onPage i) = .ok pages[i]) ∧
      ((pages.flatMap (·.data)).map (·.id)).Perm ["a", "d", "e"] ∧
      (pages.flatMap (·.data)).Pairwise crowded.log.Precedes := by
  have hreads : crowded.log.Reads { successes.filter with eventType := .text "CUSTOMER_CREATED" } :=
    Log.reads_of_aware (by decide) ⟨nofun, nofun⟩
  obtain ⟨pages, hgiven, -, hlength, hperm, -, hordered, -⟩ :=
    pages_partition crowded successes _ (by decide) nofun named_successes nofun nofun hreads
  exact ⟨pages, hlength, hgiven, hperm.map (·.id), hordered⟩

end Engine

end Automation
