import Automation.Sorting
import Automation.Proofs.Checks
import Mathlib.Data.List.Nodup
import Mathlib.Data.List.Perm.Basic
import Mathlib.Order.Lattice

/-!
# Sorting

A comparison *ranks* members of a list if it compares what they rank as, in a linear order
(`Ranks`).  Then no comparison fails, and the list is sorted: `sortBy` gives a permutation of it
that ascends (`Ranks.exists_sortBy`).  If besides no two members rank the same, there is only one
such permutation, so the list is sorted to the same whatever the order of its members
(`Ranks.exists_sortBy_of_perm`).
-/

namespace Automation

variable {α β ε : Type} [LinearOrder β] {before : α → α → Except ε Bool} {rank : α → β}
  {xs ys : List α} {x last : α}

/-- A comparison compares the ranks of the members of a list. -/
def Ranks (before : α → α → Except ε Bool) (rank : α → β) (xs : List α) : Prop :=
  ∀ x ∈ xs, ∀ y ∈ xs, before x y = .ok (decide (rank x < rank y))

theorem Ranks.mono (h : Ranks before rank xs) (hsub : ys ⊆ xs) : Ranks before rank ys :=
  fun x hx y hy => h x (hsub hx) y (hsub hy)

/-- Members that ascend. -/
abbrev Ascends (rank : α → β) (xs : List α) : Prop := xs.Pairwise fun x y => rank x ≤ rank y

/-! ## Runs -/

/-- A run ascends, or it descends strictly. -/
def IsRun (rank : α → β) : (descends : Bool) → List α → Prop
  | true, xs => xs.Pairwise fun x y => rank y < rank x
  | false, xs => Ascends rank xs

theorem IsRun.cons {descends : Bool} (hrun : IsRun rank descends (x :: xs))
    (hfirst : decide (rank x < rank last) = descends) : IsRun rank descends (last :: x :: xs) := by
  cases descends with
  | true =>
    have hlt : rank x < rank last := of_decide_eq_true hfirst
    obtain ⟨hx, -⟩ := List.pairwise_cons.1 hrun
    refine List.pairwise_cons.2 ⟨fun y hy => ?_, hrun⟩
    rcases List.mem_cons.1 hy with rfl | hy
    · exact hlt
    · exact (hx y hy).trans hlt
  | false =>
    have hle : rank last ≤ rank x := not_lt.1 (of_decide_eq_false hfirst)
    obtain ⟨hx, -⟩ := List.pairwise_cons.1 hrun
    refine List.pairwise_cons.2 ⟨fun y hy => ?_, hrun⟩
    rcases List.mem_cons.1 hy with rfl | hy
    · exact hle
    · exact hle.trans (hx y hy)

/-- A run is carried on as far as it goes. -/
theorem Ranks.exists_splitRun (descends : Bool) (h : Ranks before rank (last :: xs)) :
    ∃ run others, splitRun before descends last xs = .ok (run, others) ∧ xs = run ++ others ∧
      IsRun rank descends (last :: run) := by
  have hsingle : ∀ x : α, IsRun rank descends [x] := fun x => by
    cases descends <;> exact List.pairwise_singleton _ x
  induction xs generalizing last with
  | nil => exact ⟨[], [], rfl, rfl, hsingle last⟩
  | cons x rest ih =>
    have hfirst := h x (by simp) last (by simp)
    by_cases hcontinues : decide (rank x < rank last) = descends
    · obtain ⟨run, others, hsplit, rfl, hrun⟩ := ih (h.mono (List.subset_cons_self last _))
      refine ⟨x :: run, others, ?_, rfl, hrun.cons hcontinues⟩
      simp only [splitRun, hfirst, bind, Except.bind, if_pos hcontinues, hsplit]
      rfl
    · refine ⟨[], x :: rest, ?_, rfl, hsingle last⟩
      simp only [splitRun, hfirst, bind, Except.bind, if_neg hcontinues]
      rfl

/-- The first run ascends once it is turned round. -/
theorem Ranks.exists_firstRun (h : Ranks before rank xs) :
    ∃ run others, firstRun before xs = .ok (run, others) ∧ (run ++ others).Perm xs ∧
      Ascends rank run := by
  match xs with
  | [] => exact ⟨[], [], rfl, .refl _, .nil⟩
  | [x] => exact ⟨[x], [], rfl, .refl _, List.pairwise_singleton _ x⟩
  | x :: y :: rest =>
    obtain ⟨run, others, hsplit, rfl, hrun⟩ :=
      Ranks.exists_splitRun (decide (rank y < rank x)) (h.mono (List.subset_cons_self x _))
    have hfirst : IsRun rank (decide (rank y < rank x)) (x :: y :: run) := hrun.cons rfl
    simp only [firstRun, h y (by simp) x (by simp), hsplit, bind, Except.bind]
    generalize decide (rank y < rank x) = descends at hfirst
    cases descends with
    | true =>
      refine ⟨(x :: y :: run).reverse, others, rfl, ?_, ?_⟩
      · exact (List.reverse_perm (x :: y :: run)).append_right others
      · exact List.pairwise_reverse.2 (hfirst.imp le_of_lt)
    | false => exact ⟨x :: y :: run, others, rfl, .refl _, hfirst⟩

/-! ## Insertion -/

/-- The lower half, the middle and the upper half make up sorted members. -/
theorem insertHalving_succ (before : α → α → Except ε Bool) (x : α) (halvings : Nat)
    {sorted above : List α} {middle : α}
    (hdrop : sorted.drop (sorted.length / 2) = middle :: above) :
    insertHalving before x (halvings + 1) sorted = (do
      if ← before x middle then
        return (← insertHalving before x halvings (sorted.take (sorted.length / 2)))
          ++ middle :: above
      else return sorted.take (sorted.length / 2)
        ++ middle :: (← insertHalving before x halvings above)) := by
  rw [insertHalving, hdrop]

/-- A member that is not above the middle can be among those below. -/
theorem Ascends.insert_below {below above ys : List α} {middle : α}
    (h : Ascends rank (below ++ middle :: above)) (hys : Ascends rank ys)
    (hperm : ys.Perm (x :: below)) (hx : rank x ≤ rank middle) :
    Ascends rank (ys ++ middle :: above) := by
  obtain ⟨-, hupper, hacross⟩ := List.pairwise_append.1 h
  obtain ⟨hmiddle, -⟩ := List.pairwise_cons.1 hupper
  refine List.pairwise_append.2 ⟨hys, hupper, fun y hy z hz => ?_⟩
  rcases List.mem_cons.1 (hperm.mem_iff.1 hy) with rfl | hy
  · rcases List.mem_cons.1 hz with rfl | hz
    · exact hx
    · exact hx.trans (hmiddle z hz)
  · exact hacross y hy z hz

/-- A member that is not below the middle can be among those above. -/
theorem Ascends.insert_above {below above ys : List α} {middle : α}
    (h : Ascends rank (below ++ middle :: above)) (hys : Ascends rank ys)
    (hperm : ys.Perm (x :: above)) (hx : rank middle ≤ rank x) :
    Ascends rank (below ++ middle :: ys) := by
  obtain ⟨hbelow, hupper, hacross⟩ := List.pairwise_append.1 h
  obtain ⟨hmiddle, -⟩ := List.pairwise_cons.1 hupper
  have hleast : ∀ z ∈ ys, rank middle ≤ rank z := by
    intro z hz
    rcases List.mem_cons.1 (hperm.mem_iff.1 hz) with rfl | hz
    · exact hx
    · exact hmiddle z hz
  refine List.pairwise_append.2 ⟨hbelow, List.pairwise_cons.2 ⟨hleast, hys⟩, fun y hy z hz => ?_⟩
  have hy : rank y ≤ rank middle := hacross y hy middle List.mem_cons_self
  rcases List.mem_cons.1 hz with rfl | hz
  · exact hy
  · exact hy.trans (hleast z hz)

/-- A member is put into its place. -/
theorem Ranks.exists_insertHalving (halvings : Nat) (h : Ranks before rank (x :: xs))
    (hsorted : Ascends rank xs) (henough : xs.length ≤ halvings) :
    ∃ ys, insertHalving before x halvings xs = .ok ys ∧ ys.Perm (x :: xs) ∧ Ascends rank ys := by
  induction halvings generalizing xs with
  | zero =>
    obtain rfl := List.eq_nil_of_length_eq_zero (Nat.le_zero.1 henough)
    exact ⟨[x], rfl, .refl _, List.pairwise_singleton _ x⟩
  | succ halvings ih =>
    cases hdrop : xs.drop (xs.length / 2) with
    | nil =>
      obtain rfl : xs = [] := by
        have := List.drop_eq_nil_iff.1 hdrop
        exact List.eq_nil_of_length_eq_zero (by omega)
      exact ⟨[x], by rw [insertHalving, hdrop], .refl _, List.pairwise_singleton _ x⟩
    | cons middle above =>
      have hsplit : xs.take (xs.length / 2) ++ middle :: above = xs := by
        rw [← hdrop, List.take_append_drop]
      have hlengths := congrArg List.length hsplit
      rw [insertHalving_succ before x halvings hdrop]
      generalize xs.take (xs.length / 2) = below at hsplit hlengths
      subst hsplit
      rw [List.length_append, List.length_cons] at henough
      obtain ⟨hbelow, hupper, -⟩ := List.pairwise_append.1 hsorted
      simp only [h x (by simp) middle (by simp), bind, Except.bind]
      -- the member goes into the half that the middle one leaves it
      by_cases hlt : rank x < rank middle
      · obtain ⟨ys, hys, hperm, hascends⟩ := ih (h.mono (by simp)) hbelow (by omega)
        refine ⟨ys ++ middle :: above, ?_, hperm.append_right _,
          Ascends.insert_below hsorted hascends hperm hlt.le⟩
        rw [if_pos (decide_eq_true hlt), hys]
        rfl
      · have hle : rank middle ≤ rank x := not_lt.1 hlt
        obtain ⟨ys, hys, hperm, hascends⟩ := ih
          (h.mono (List.cons_subset_cons x fun y hy => by simp [hy])) hupper.of_cons (by omega)
        refine ⟨below ++ middle :: ys, ?_, ?_, Ascends.insert_above hsorted hascends hperm hle⟩
        · rw [if_neg (by simpa using hle), hys]
          rfl
        · calc below ++ middle :: ys
            _ |>.Perm (below ++ middle :: x :: above) := (hperm.cons middle).append_left below
            _ |>.Perm (below ++ x :: middle :: above) := (List.Perm.swap ..).append_left below
            _ |>.Perm (x :: (below ++ middle :: above)) := List.perm_middle

/-- Members are put into their places, one after the other. -/
theorem Ranks.exists_insertAll {sorted : List α} (h : Ranks before rank (sorted ++ xs))
    (hsorted : Ascends rank sorted) :
    ∃ ys, insertAll before sorted xs = .ok ys ∧ ys.Perm (sorted ++ xs) ∧ Ascends rank ys := by
  induction xs generalizing sorted with
  | nil => exact ⟨sorted, rfl, by simp, hsorted⟩
  | cons x rest ih =>
    have hinsert : x :: sorted ⊆ sorted ++ x :: rest := by simp
    obtain ⟨grown, hgrown, hperm, hascends⟩ :=
      Ranks.exists_insertHalving sorted.length (h.mono hinsert) hsorted (Nat.le_refl _)
    have hmoved : (grown ++ rest).Perm (sorted ++ x :: rest) :=
      (hperm.append_right rest).trans List.perm_middle.symm
    obtain ⟨ys, hys, hall, hresult⟩ := ih (h.mono hmoved.subset) hascends
    refine ⟨ys, ?_, hall.trans hmoved, hresult⟩
    rw [insertAll, hgrown]
    exact hys

/-! ## The whole list -/

/-- A ranked list is sorted. -/
theorem Ranks.exists_sortBy (h : Ranks before rank xs) :
    ∃ ys, sortBy before xs = .ok ys ∧ ys.Perm xs ∧ Ascends rank ys := by
  obtain ⟨run, others, hfirst, hperm, hrun⟩ := h.exists_firstRun
  obtain ⟨ys, hys, hall, hascends⟩ := (h.mono hperm.subset).exists_insertAll hrun
  refine ⟨ys, ?_, hall.trans hperm, hascends⟩
  rw [sortBy, hfirst]
  exact hys

/-- A list whose members rank differently is sorted to the same whatever their order. -/
theorem Ranks.exists_sortBy_of_perm (h : Ranks before rank xs) (hperm : xs.Perm ys)
    (hnodup : (xs.map rank).Nodup) :
    ∃ zs, sortBy before xs = .ok zs ∧ sortBy before ys = .ok zs := by
  obtain ⟨xs', hxs, hxs', hascends⟩ := h.exists_sortBy
  obtain ⟨ys', hys, hys', hascends'⟩ := (h.mono hperm.symm.subset).exists_sortBy
  refine ⟨xs', hxs, hys.trans (congrArg Except.ok ?_)⟩
  refine List.Perm.eq_of_pairwise ?_ hascends' hascends (hys'.trans (hperm.symm.trans hxs'.symm))
  intro y x hy hx hyx hxy
  rw [hys'.mem_iff, ← hperm.mem_iff] at hy
  rw [hxs'.mem_iff] at hx
  exact List.inj_on_of_nodup_map hnodup hy hx (le_antisymm hyx hxy)

end Automation
