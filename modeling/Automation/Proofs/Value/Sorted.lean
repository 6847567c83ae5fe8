import Automation.Json.Writer
import Automation.Proofs.Event.Comparison
import Automation.Proofs.Sorting
import Automation.Proofs.Value.Keys
import Mathlib.Data.Prod.Lex
import Mathlib.Data.String.Basic

/-!
# Sorting the entries of a mapping

Keys can be sorted if they are of one sort: all texts, or all numbers, none of which is
not-a-number (`Key.Sortable`).  Texts rank as they are, and a number ranks by its side of the
extended line and its exact value there (`Number.rank`).  Entries whose keys can be sorted and are
not the same are sorted in one way only (`exists_sortEntries_of_perm`).
-/

namespace Automation

/-! ## Numbers -/

namespace Number

/-- The place of a number on the extended line: its side, and its exact value if it is finite. -/
def rank (x : Number) : Int ×ₗ Rat := toLex (x.infinitySide, x.toRat?.getD 0)

variable {x y : Number}

theorem infinitySide_of_value {q : Rat} (h : x.toRat? = some q) : x.infinitySide = 0 := by
  cases x with
  | int => rfl
  | double x =>
    cases x with
    | finite => rfl
    | infinite | nan => cases h

theorem rank_of_value {q : Rat} (h : x.toRat? = some q) : x.rank = toLex (0, q) := by
  rw [rank, infinitySide_of_value h, h, Option.getD_some]

/-- With an infinity only the sides count. -/
theorem lt_of_no_value (hx : x.isNan = false) (hy : y.isNan = false)
    (hnone : x.toRat? = none ∨ y.toRat? = none) :
    x.lt y = decide (x.infinitySide < y.infinitySide) := by
  simp only [lt, hx, hy, Bool.or_self, Bool.false_eq_true, if_false]
  rcases hnone with hnone | hnone
  · rw [hnone]
  · rw [hnone]
    cases x.toRat? <;> rfl

theorem infinitySide_ne_zero (hx : x.isNan = false) (hnone : x.toRat? = none) :
    x.infinitySide ≠ 0 := by
  rcases value_cases x with ⟨p, hp, -⟩ | ⟨a, rfl⟩ | rfl
  · cases hnone.symm.trans hp
  · cases a <;> decide
  · cases hx

/-- Numbers are in the order of their ranks. -/
theorem lt_eq_rank_lt (hx : x.isNan = false) (hy : y.isNan = false) :
    x.lt y = decide (x.rank < y.rank) := by
  cases hp : x.toRat? with
  | none =>
    rw [lt_of_no_value hx hy (.inl hp), rank, rank, hp]
    have hside := infinitySide_ne_zero hx hp
    cases hq : y.toRat? with
    | none => simp [Prod.Lex.toLex_lt_toLex]
    | some q => simp [Prod.Lex.toLex_lt_toLex, infinitySide_of_value hq, hside]
  | some p =>
    cases hq : y.toRat? with
    | none =>
      have hside := infinitySide_ne_zero hy hq
      rw [lt_of_no_value hx hy (.inr hq), rank_of_value hp, infinitySide_of_value hp, rank]
      simp [Prod.Lex.toLex_lt_toLex, hside.symm]
    | some q =>
      rw [lt_of_values hp hq, rank_of_value hp, rank_of_value hq]
      simp [Prod.Lex.toLex_lt_toLex]

/-- Numbers that rank the same are equal. -/
theorem eq_of_rank_eq (hx : x.isNan = false) (hy : y.isNan = false) (h : x.rank = y.rank) :
    x.eq y = true := by
  have hsides : x.infinitySide = y.infinitySide := congrArg (fun r => (ofLex r).1) h
  have hvalues : x.toRat?.getD 0 = y.toRat?.getD 0 := congrArg (fun r => (ofLex r).2) h
  cases hp : x.toRat? with
  | none =>
    cases hq : y.toRat? with
    | none => simp [eq, hp, hq, hx, hy, hsides]
    | some q =>
      rw [infinitySide_of_value hq] at hsides
      exact absurd hsides (infinitySide_ne_zero hx hp)
  | some p =>
    cases hq : y.toRat? with
    | none =>
      rw [infinitySide_of_value hp] at hsides
      exact absurd hsides.symm (infinitySide_ne_zero hy hq)
    | some q =>
      rw [hp, hq] at hvalues
      rw [eq_of_values hp hq]
      exact decide_eq_true hvalues

end Number

/-! ## Keys -/

namespace Key

/-- Keys that are in an order: there is one at most, or all are texts, or all are numbers. -/
inductive Sortable (ks : List Key) : Prop where
  | single (length_le : ks.length ≤ 1)
  | texts (texts : ∀ k ∈ ks, ∃ s, k = .text s)
  | numbers (numbers : ∀ k ∈ ks, ∃ x, k.number? = some x ∧ x.isNan = false)

variable {k l : Key} {x y : Number}

theorem less_texts (s t : String) : less (.text s) (.text t) = .ok (decide (s < t)) := by
  simp [less, before?]

theorem less_numbers (hk : k.number? = some x) (hl : l.number? = some y) :
    k.less l = .ok (x.lt y) := by
  cases k <;> cases hk <;> cases l <;> cases hl <;> simp [less, before?, number?]

theorem same_numbers (hk : k.number? = some x) (hl : l.number? = some y) :
    k.same l = x.eq y := by
  cases k <;> cases hk <;> cases l <;> cases hl <;> simp [same, number?]

end Key

section

variable {α : Type} {es fs : List (Key × α)}

/-- Entries whose keys are compared by what they rank as, and no two of which are the same, are
sorted to the same whatever their order. -/
theorem exists_sortEntries_of_ranks {β : Type} [LinearOrder β] (rank : Key → β) (h : es.Perm fs)
    (hless : ∀ e ∈ es, ∀ f ∈ es, e.1.less f.1 = .ok (decide (rank e.1 < rank f.1)))
    (hsame : ∀ e ∈ es, ∀ f ∈ es, rank e.1 = rank f.1 → e.1.same f.1 = true)
    (hapart : es.Pairwise fun e f => e.1.same f.1 = false) :
    ∃ sorted, sortEntries es = .ok sorted ∧ sortEntries fs = .ok sorted := by
  have hranks : Ranks (fun e f => e.1.less f.1) (fun e => rank e.1) es := hless
  refine hranks.exists_sortBy_of_perm h ?_
  refine List.pairwise_map.2 (hapart.imp_of_mem fun {e f} he hf hne heq => ?_)
  rw [hsame e he f hf heq] at hne
  cases hne

/-- Entries with keys that can be sorted, and no two of which are the same, are sorted to the same
whatever their order. -/
theorem exists_sortEntries_of_perm (h : es.Perm fs) (hsort : Key.Sortable (es.map Prod.fst))
    (hapart : (es.map Prod.fst).Pairwise fun k l => k.same l = false) :
    ∃ sorted, sortEntries es = .ok sorted ∧ sortEntries fs = .ok sorted := by
  rw [List.pairwise_map] at hapart
  cases hsort with
  | single hlength =>
    match es with
    | [] =>
      obtain rfl := List.nil_perm.1 h
      exact ⟨[], rfl, rfl⟩
    | [e] =>
      obtain rfl := List.singleton_perm.1 h
      exact ⟨[e], rfl, rfl⟩
    | _ :: _ :: _ => simp at hlength
  | texts htexts =>
    have htext : ∀ e ∈ es, ∃ s, e.1 = .text s := fun e he => htexts e.1 (List.mem_map_of_mem he)
    refine exists_sortEntries_of_ranks (fun k => k.text?.getD "") h ?_ ?_ hapart
    · intro e he f hf
      obtain ⟨s, hs⟩ := htext e he
      obtain ⟨t, ht⟩ := htext f hf
      simp only [hs, ht, Key.less_texts, Key.text?, Option.getD_some]
    · intro e he f hf heq
      obtain ⟨s, hs⟩ := htext e he
      obtain ⟨t, ht⟩ := htext f hf
      rw [hs, ht] at heq ⊢
      obtain rfl : s = t := heq
      rw [Key.same_text, beq_self_eq_true]
  | numbers hnumbers =>
    have hnumber : ∀ e ∈ es, ∃ x, e.1.number? = some x ∧ x.isNan = false :=
      fun e he => hnumbers e.1 (List.mem_map_of_mem he)
    refine exists_sortEntries_of_ranks (fun k => (k.number?.map Number.rank).getD 0) h ?_ ?_
      hapart
    · intro e he f hf
      obtain ⟨x, hx, hxnan⟩ := hnumber e he
      obtain ⟨y, hy, hynan⟩ := hnumber f hf
      simp only [Key.less_numbers hx hy, hx, hy, Number.lt_eq_rank_lt hxnan hynan,
        Option.map_some, Option.getD_some]
    · intro e he f hf heq
      obtain ⟨x, hx, hxnan⟩ := hnumber e he
      obtain ⟨y, hy, hynan⟩ := hnumber f hf
      rw [hx, hy] at heq
      rw [Key.same_numbers hx hy, Number.eq_of_rank_eq hxnan hynan heq]

end

/-- The keys of a mapping can be sorted. -/
def Mapping.Sortable (m : Mapping) : Prop := Key.Sortable (m.map Prod.fst)

end Automation
