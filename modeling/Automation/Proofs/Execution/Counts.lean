import Automation.Execution.Statistics
import Automation.Proofs.Execution.Grouping
import Automation.Proofs.Checks
import Mathlib.Data.List.Sort

/-!
# What statistics count

The parts of the statistics are made in loops over the records.  Here each is told by what it
counts: the statuses (`counted_statusCounts`), the kinds of events (`eventCounts_eq`), the kinds of
actions if they are texts (`actionBreakdown_eq`), and the workflows in their ranking
(`topWorkflows_eq`).

The order of the records matters to none of them.  Kinds and workflows are sorted, by an order in
which no two differ and yet neither comes first, so there is one way only to sort them
(`mergeSort_eq_of_perm`).
-/

namespace Automation

variable {rs rs' : List ExecutionRecord}

/-! ## Counting in a loop -/

theorem foldl_succ {α : Type} (xs : List α) (n : Nat) :
    xs.foldl (fun n _ => n + 1) n = n + xs.length := by
  induction xs generalizing n with
  | nil => rfl
  | cons x xs ih =>
    rw [List.foldl_cons, ih, List.length_cons]
    omega

theorem foldl_append {α : Type} (xs start : List α) :
    xs.foldl (fun ys x => ys ++ [x]) start = start ++ xs := by
  induction xs generalizing start with
  | nil => simp
  | cons x xs ih => rw [List.foldl_cons, ih, List.append_assoc, List.singleton_append]

/-! ## Statuses and kinds of events -/

theorem counted_statusCounts (rs : List ExecutionRecord) (s : Status) :
    counted (statusCounts rs) s = rs.countP fun r => r.status == s := by
  have hnone : counted ([] : List (Status × Nat)) s = 0 := rfl
  rw [statusCounts, counted_tally, hnone, Nat.zero_add, List.count_eq_countP, List.countP_map]
  rfl

theorem eventCounts_eq (rs : List ExecutionRecord) :
    eventCounts rs = EventType.all.map fun t => (t, rs.countP fun r => r.eventType == t) := by
  obtain ⟨new, hnodup, -, heq⟩ := gather_eq (β := Nat) 0 id (fun _ n => n + 1)
    (show EventType.all.Nodup by decide) (rs.map (·.eventType))
  -- All kinds have entries from the start, so none is made.
  obtain rfl : new = [] := by
    rw [List.eq_nil_iff_forall_not_mem]
    intro t ht
    exact (List.disjoint_of_nodup_append hnodup) (EventType.mem_all t) ht
  rw [List.append_nil] at heq
  rw [eventCounts, tally, heq]
  refine List.map_congr_left fun t _ => ?_
  rw [gathered, foldl_succ, Nat.zero_add, ← List.countP_eq_length_filter, List.countP_map]
  rfl

theorem Status.sum_countP (rs : List ExecutionRecord) :
    (rs.countP fun r => r.status == .success) + (rs.countP fun r => r.status == .mixed) +
      (rs.countP fun r => r.status == .failed) = rs.length := by
  induction rs with
  | nil => rfl
  | cons r rs ih =>
    simp only [List.countP_cons, List.length_cons, ← ih]
    cases r.status <;> simp <;> omega

/-! ## Kinds of actions -/

/-- The kind of an action if it is a text. -/
def ActionResult.kind? (a : ActionResult) : Option String := a.actionType.text?

theorem ActionResult.kind?_eq_some_iff {a : ActionResult} {k : String} :
    a.kind? = some k ↔ a.actionType = .text k := by
  rw [kind?]
  cases a.actionType <;> simp [Value.text?]

theorem forall_allResults {P : ActionResult → Prop} :
    (∀ a ∈ allResults rs, P a) ↔ ∀ r ∈ rs, ∀ a ∈ r.results, P a := by
  simp only [allResults, List.forall_mem_flatMap]

/-- The counts of a kind of action among results. -/
def countsOf (results : List ActionResult) (k : String) : ActionCounts where
  actionType := .text k
  total := results.countP fun a => a.kind? == some k
  successful := results.countP fun a => a.kind? == some k && a.success

/-- Members that differ unless each may come before the other are sorted in one way only. -/
theorem mergeSort_eq_of_perm {α : Type} {le : α → α → Bool} {xs ys : List α}
    (htrans : ∀ a b c, le a b = true → le b c = true → le a c = true)
    (htotal : ∀ a b, (le a b || le b a) = true)
    (hantisymm : ∀ a b, le a b = true → le b a = true → a = b) (h : xs.Perm ys) :
    xs.mergeSort le = ys.mergeSort le := by
  refine List.Perm.eq_of_pairwise (fun a b _ _ => hantisymm a b)
    (List.pairwise_mergeSort htrans htotal xs) (List.pairwise_mergeSort htrans htotal ys) ?_
  exact (List.mergeSort_perm xs le).trans (h.trans (List.mergeSort_perm ys le).symm)

/-- Texts in their order. -/
def sortTexts (ks : List String) : List String := ks.mergeSort fun k l => decide (k ≤ l)

theorem sortTexts_eq_of_perm {ks ls : List String} (h : ks.Perm ls) :
    sortTexts ks = sortTexts ls := by
  refine mergeSort_eq_of_perm ?_ ?_ ?_ h
  · intro j k l hjk hkl
    exact decide_eq_true (String.le_trans (of_decide_eq_true hjk) (of_decide_eq_true hkl))
  · intro k l
    simpa using String.le_total k l
  · intro k l hkl hlk
    exact String.le_antisymm (of_decide_eq_true hkl) (of_decide_eq_true hlk)

theorem before?_text (s t : String) : Key.before? (.text s) (.text t) = some (decide (s < t)) := by
  simp [Key.before?]

theorem ordered_texts (ks : List String) : Key.ordered (ks.map Key.text) = true := by
  induction ks with
  | nil => rfl
  | cons k ks ih => simp [Key.ordered, before?_text, ih]

/-- Entries of texts are sorted as the texts are. -/
theorem sortByKey?_texts {β : Type} (ks : List String) (v : String → β) :
    sortByKey? (ks.map fun k => (Key.text k, v k)) =
      some ((sortTexts ks).map fun k => (Key.text k, v k)) := by
  have hkeys : (ks.map fun k => (Key.text k, v k)).map Prod.fst = ks.map Key.text := by
    rw [List.map_map]
    rfl
  rw [sortByKey?, hkeys, ordered_texts, if_pos rfl, sortTexts, List.map_mergeSort]
  intro k _ l _
  by_cases hlk : l < k
  · simp [before?_text, hlk, String.not_le.2 hlk]
  · simp [before?_text, hlk, String.not_lt.1 hlk]

/-- The kinds of results, and whether they were successes, if all kinds are texts. -/
theorem keyedOutcomes_eq {results : List ActionResult} {kind : ActionResult → String}
    (h : ∀ a ∈ results, a.kind? = some (kind a)) :
    keyedOutcomes results = .ok (results.map fun a => (Key.text (kind a), a.success)) := by
  induction results with
  | nil => rfl
  | cons a results ih =>
    have hrest := ih fun b hb => h b (List.mem_cons_of_mem a hb)
    have ha := ActionResult.kind?_eq_some_iff.1 (h a List.mem_cons_self)
    rw [keyedOutcomes] at hrest ⊢
    rw [List.mapM_cons, hrest, ha]
    rfl

theorem gathered_outcomes (results : List ActionResult) (kind : ActionResult → String)
    (k : String) :
    gathered (0, 0) kind (fun a n => (n.1 + 1, if a.success then n.2 + 1 else n.2)) results k =
      (results.countP fun a => kind a == k, results.countP fun a => kind a == k && a.success) := by
  induction results using List.reverseRecOn with
  | nil => rfl
  | append_singleton results a ih =>
    rw [gathered_concat, ih, List.countP_append, List.countP_append]
    cases hk : kind a == k <;> cases hs : a.success <;> simp [hk, hs]

/-- The breakdown of results whose kinds are texts has the counts of each kind that occurs. -/
theorem actionBreakdown_eq {results : List ActionResult}
    (h : ∀ a ∈ results, ∃ k, a.kind? = some k) :
    ∃ kinds : List String, kinds.Nodup ∧ (∀ k, k ∈ kinds ↔ ∃ a ∈ results, a.kind? = some k) ∧
      actionBreakdown results = .ok ((sortTexts kinds).map (countsOf results)) := by
  let kind : ActionResult → String := fun a => a.kind?.getD ""
  have hkind : ∀ a ∈ results, a.kind? = some (kind a) := by
    intro a ha
    obtain ⟨k, hk⟩ := h a ha
    simp only [kind, hk, Option.getD_some]
  -- The loop goes by keys.  Here they stand for texts, so it is told by a loop over texts.
  obtain ⟨kinds, hnodup, hmem, hgather⟩ := gather_eq (β := Nat × Nat) (0, 0) kind
    (fun a n => (n.1 + 1, if a.success then n.2 + 1 else n.2)) List.nodup_nil results
  simp only [List.nil_append, List.not_mem_nil, false_or, List.map_nil] at hnodup hmem hgather
  refine ⟨kinds, hnodup, ?_, ?_⟩
  · intro k
    rw [hmem, List.mem_map]
    refine exists_congr fun a => and_congr_right fun ha => ?_
    rw [hkind a ha, Option.some.injEq]
  · have htotals : actionTotals (results.map fun a => (Key.text (kind a), a.success)) =
        kinds.map fun k => (Key.text k, results.countP fun a => kind a == k,
          results.countP fun a => kind a == k && a.success) := by
      have hmap := gather_map (β := Nat × Nat) (0, 0) kind
        (fun a n => (n.1 + 1, if a.success then n.2 + 1 else n.2)) Key.same_text [] results
      rw [hgather, List.map_map] at hmap
      rw [actionTotals, gather, List.foldl_map]
      refine hmap.trans (List.map_congr_left fun k _ => ?_)
      simp only [Function.comp, Prod.map, id, gathered_outcomes]
    have hcounts : ∀ k, results.countP (fun a => kind a == k) =
          results.countP (fun a => a.kind? == some k) ∧
        results.countP (fun a => kind a == k && a.success) =
          results.countP (fun a => a.kind? == some k && a.success) := by
      intro k
      constructor
      · exact List.countP_congr fun a ha => by simp [hkind a ha]
      · exact List.countP_congr fun a ha => by simp [hkind a ha]
    rw [actionBreakdown, keyedOutcomes_eq hkind]
    simp only [bind, Except.bind, htotals, sortByKey?_texts, pure, Except.pure, List.map_map]
    refine congrArg Except.ok (List.map_congr_left fun k _ => ?_)
    simp only [Function.comp, countsOf, hcounts]

/-! ## The ranking -/

/-- The records of a workflow. -/
def ofWorkflow (rs : List ExecutionRecord) (id : String) : List ExecutionRecord :=
  rs.filter fun r => r.workflowId == id

/-- Whether a workflow is ranked before another, or is the same. -/
def ranksBefore (rs : List ExecutionRecord) (a b : String) : Bool :=
  rankedBefore (a, ofWorkflow rs a) (b, ofWorkflow rs b)

/-- How a workflow stands among those executed most often. -/
def topOf (definitions : List Definition) (rs : List ExecutionRecord) (id : String) :
    TopWorkflow where
  workflowId := id
  name := (definitions.find? (·.id == id)).map (·.name)
  count := (ofWorkflow rs id).length
  successRate := recordRate (ofWorkflow rs id)

/-- More executions come first, and among as many the lesser identifier. -/
theorem ranksBefore_iff {a b : String} :
    ranksBefore rs a b = true ↔ (ofWorkflow rs b).length < (ofWorkflow rs a).length ∨
      (ofWorkflow rs a).length = (ofWorkflow rs b).length ∧ a ≤ b := by
  rw [ranksBefore, rankedBefore]
  by_cases h : (ofWorkflow rs a).length = (ofWorkflow rs b).length
  · simp [h]
  · simp [h]

theorem ranksBefore_trans (a b c : String) (hab : ranksBefore rs a b = true)
    (hbc : ranksBefore rs b c = true) : ranksBefore rs a c = true := by
  rw [ranksBefore_iff] at hab hbc ⊢
  rcases hab with hab | ⟨hab, hle⟩
  · left
    omega
  · rcases hbc with hbc | ⟨hbc, hle'⟩
    · left
      omega
    · exact .inr ⟨hab.trans hbc, String.le_trans hle hle'⟩

theorem ranksBefore_total (a b : String) : (ranksBefore rs a b || ranksBefore rs b a) = true := by
  rw [Bool.or_eq_true, ranksBefore_iff, ranksBefore_iff]
  rcases Nat.lt_trichotomy (ofWorkflow rs a).length (ofWorkflow rs b).length with h | h | h
  · exact .inr (.inl h)
  · rcases String.le_total a b with hle | hle
    · exact .inl (.inr ⟨h, hle⟩)
    · exact .inr (.inr ⟨h.symm, hle⟩)
  · exact .inl (.inl h)

theorem ranksBefore_antisymm (a b : String) (hab : ranksBefore rs a b = true)
    (hba : ranksBefore rs b a = true) : a = b := by
  rw [ranksBefore_iff] at hab hba
  rcases hab with hab | ⟨hab, hle⟩
  · rcases hba with hba | ⟨hba, -⟩ <;> omega
  · rcases hba with hba | ⟨-, hle'⟩
    · omega
    · exact String.le_antisymm hle hle'

theorem byWorkflow_eq (rs : List ExecutionRecord) :
    ∃ ids : List String, ids.Nodup ∧ (∀ id, id ∈ ids ↔ id ∈ rs.map (·.workflowId)) ∧
      byWorkflow rs = ids.map fun id => (id, ofWorkflow rs id) := by
  obtain ⟨ids, hnodup, hmem, hgather⟩ := gather_eq [] (fun r : ExecutionRecord => r.workflowId)
    (fun r items => items ++ [r]) List.nodup_nil rs
  simp only [List.nil_append, List.not_mem_nil, false_or, List.map_nil] at hnodup hmem hgather
  refine ⟨ids, hnodup, hmem, ?_⟩
  rw [byWorkflow, hgather]
  refine List.map_congr_left fun id _ => ?_
  rw [gathered, foldl_append, List.nil_append, ofWorkflow]

/-- The workflows executed most often are the first ones of a ranking of all that were executed. -/
theorem topWorkflows_eq (definitions : List Definition) (rs : List ExecutionRecord) :
    ∃ ids : List String, ids.Nodup ∧ (∀ id, id ∈ ids ↔ id ∈ rs.map (·.workflowId)) ∧
      topWorkflows definitions rs =
        ((ids.mergeSort (ranksBefore rs)).take topLimit).map (topOf definitions rs) := by
  obtain ⟨ids, hnodup, hmem, hgroups⟩ := byWorkflow_eq rs
  refine ⟨ids, hnodup, hmem, ?_⟩
  have hsorted : (ids.map fun id => (id, ofWorkflow rs id)).mergeSort rankedBefore =
      (ids.mergeSort (ranksBefore rs)).map fun id => (id, ofWorkflow rs id) := by
    rw [List.map_mergeSort]
    exact fun _ _ _ _ => rfl
  rw [topWorkflows, hgroups, hsorted, ← List.map_take, List.map_map]
  rfl

/-! ## The order of the records -/

theorem recordRate_eq_of_perm (h : rs.Perm rs') : recordRate rs = recordRate rs' := by
  rw [recordRate, recordRate, counted_statusCounts, counted_statusCounts, h.countP_eq, h.length_eq]

theorem eventCounts_eq_of_perm (h : rs.Perm rs') : eventCounts rs = eventCounts rs' := by
  rw [eventCounts_eq, eventCounts_eq]
  exact List.map_congr_left fun t _ => by rw [h.countP_eq]

theorem countsOf_eq_of_perm {results results' : List ActionResult} (h : results.Perm results') :
    countsOf results = countsOf results' := by
  funext k
  rw [countsOf, countsOf, h.countP_eq, h.countP_eq]

theorem actionBreakdown_eq_of_perm {results results' : List ActionResult}
    (h : results.Perm results') (htexts : ∀ a ∈ results, ∃ k, a.kind? = some k) :
    actionBreakdown results = actionBreakdown results' := by
  obtain ⟨kinds, hnodup, hmem, heq⟩ := actionBreakdown_eq htexts
  obtain ⟨kinds', hnodup', hmem', heq'⟩ :=
    actionBreakdown_eq fun a ha => htexts a (h.mem_iff.2 ha)
  have hkinds : kinds.Perm kinds' := by
    rw [List.perm_ext_iff_of_nodup hnodup hnodup']
    intro k
    simp only [hmem, hmem', h.mem_iff]
  rw [heq, heq', countsOf_eq_of_perm h, sortTexts_eq_of_perm hkinds]

theorem ranksBefore_eq_of_perm (h : rs.Perm rs') : ranksBefore rs = ranksBefore rs' := by
  funext a b
  have hlength : ∀ id, (ofWorkflow rs id).length = (ofWorkflow rs' id).length :=
    fun id => (h.filter _).length_eq
  rw [Bool.eq_iff_iff, ranksBefore_iff, ranksBefore_iff, hlength, hlength]

theorem topOf_eq_of_perm (definitions : List Definition) (h : rs.Perm rs') :
    topOf definitions rs = topOf definitions rs' := by
  funext id
  have hperm : (ofWorkflow rs id).Perm (ofWorkflow rs' id) := h.filter _
  rw [topOf, topOf, hperm.length_eq, recordRate_eq_of_perm hperm]

theorem topWorkflows_eq_of_perm (definitions : List Definition) (h : rs.Perm rs') :
    topWorkflows definitions rs = topWorkflows definitions rs' := by
  obtain ⟨ids, hnodup, hmem, heq⟩ := topWorkflows_eq definitions rs
  obtain ⟨ids', hnodup', hmem', heq'⟩ := topWorkflows_eq definitions rs'
  have hids : ids.Perm ids' := by
    rw [List.perm_ext_iff_of_nodup hnodup hnodup']
    intro id
    rw [hmem, hmem', (h.map _).mem_iff]
  rw [heq, heq', topOf_eq_of_perm definitions h, ranksBefore_eq_of_perm h,
    mergeSort_eq_of_perm ranksBefore_trans ranksBefore_total ranksBefore_antisymm hids]

end Automation
