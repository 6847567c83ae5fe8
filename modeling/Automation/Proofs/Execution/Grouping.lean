import Automation.Execution.Grouping
import Mathlib.Algebra.GroupWithZero.Nat
import Mathlib.Data.List.Induction
import Mathlib.Data.List.Nodup
import Mathlib.Tactic.Tauto

/-!
# What is gathered

What is gathered from a list has one entry for each key that occurs, and the entry holds what the
members of the key make of the initial value, in their order (`gather_eq`).  Nothing that is counted
is lost or counted twice, whatever keys are the same (`sum_gather`).
-/

namespace Automation

variable {α κ κ' β : Type} {initial : β} {key : α → κ} {change : α → β → β}

/-! ## Sums -/

theorem sum_adjust {same : κ → κ → Bool} {measure : β → Nat} {increase : β → β}
    (hinitial : measure initial = 0) (hincrease : ∀ v, measure (increase v) = measure v + 1) (k : κ)
    (entries : List (κ × β)) :
    ((adjust same initial k increase entries).map fun e => measure e.2).sum =
      (entries.map fun e => measure e.2).sum + 1 := by
  induction entries with
  | nil => simp [adjust, hinitial, hincrease]
  | cons entry rest ih =>
    rw [adjust]
    cases same k entry.1 with
    | true =>
      simp only [if_true, List.map_cons, List.sum_cons, hincrease]
      omega
    | false =>
      simp only [Bool.false_eq_true, if_false, List.map_cons, List.sum_cons, ih]
      omega

/-- Each member of a list adds one to the sum of the entries. -/
theorem sum_gather {same : κ → κ → Bool} (measure : β → Nat) (hinitial : measure initial = 0)
    (hchange : ∀ x v, measure (change x v) = measure v + 1) (entries : List (κ × β))
    (xs : List α) :
    ((gather same initial key change entries xs).map fun e => measure e.2).sum =
      (entries.map fun e => measure e.2).sum + xs.length := by
  induction xs generalizing entries with
  | nil => rfl
  | cons x xs ih =>
    have hrest := ih (adjust same initial (key x) (change x) entries)
    rw [sum_adjust hinitial (hchange x)] at hrest
    rw [List.length_cons, ← Nat.add_assoc, Nat.add_right_comm]
    exact hrest

/-! ## Values -/

theorem forall_adjust {same : κ → κ → Bool} {P : β → Prop} {increase : β → β} (k : κ)
    (hinitial : P initial) (hincrease : ∀ v, P v → P (increase v)) {entries : List (κ × β)}
    (h : ∀ e ∈ entries, P e.2) : ∀ e ∈ adjust same initial k increase entries, P e.2 := by
  induction entries with
  | nil =>
    intro e he
    obtain rfl := List.mem_singleton.1 he
    exact hincrease _ hinitial
  | cons entry rest ih =>
    obtain ⟨hentry, hrest⟩ := List.forall_mem_cons.1 h
    rw [adjust]
    split
    · exact List.forall_mem_cons.2 ⟨hincrease _ hentry, hrest⟩
    · exact List.forall_mem_cons.2 ⟨hentry, ih hrest⟩

/-- What holds of the initial value, and goes on to hold, holds of all that is gathered. -/
theorem forall_gather {same : κ → κ → Bool} {P : β → Prop} (hinitial : P initial)
    (hchange : ∀ x v, P v → P (change x v)) {entries : List (κ × β)} (h : ∀ e ∈ entries, P e.2)
    (xs : List α) : ∀ e ∈ gather same initial key change entries xs, P e.2 := by
  induction xs generalizing entries with
  | nil => exact h
  | cons x xs ih => exact ih (forall_adjust (key x) hinitial (hchange x) h)

/-! ## Keys that stand for others -/

theorem adjust_map {same : κ → κ → Bool} {same' : κ' → κ' → Bool} {f : κ' → κ}
    (hsame : ∀ k l, same (f k) (f l) = same' k l) (k : κ') (increase : β → β)
    (entries : List (κ' × β)) :
    adjust same initial (f k) increase (entries.map (Prod.map f id)) =
      (adjust same' initial k increase entries).map (Prod.map f id) := by
  induction entries with
  | nil => rfl
  | cons entry rest ih =>
    simp only [List.map_cons, adjust, Prod.map_fst, Prod.map_snd, hsame, id_eq, ih]
    cases same' k entry.1 <;> rfl

/-- If keys stand for others, and are the same exactly if these are, as much is gathered. -/
theorem gather_map (initial : β) (key : α → κ') (change : α → β → β) {same : κ → κ → Bool}
    {same' : κ' → κ' → Bool} {f : κ' → κ}
    (hsame : ∀ k l, same (f k) (f l) = same' k l) (entries : List (κ' × β)) (xs : List α) :
    gather same initial (fun x => f (key x)) change (entries.map (Prod.map f id)) xs =
      (gather same' initial key change entries xs).map (Prod.map f id) := by
  induction xs generalizing entries with
  | nil => rfl
  | cons x xs ih =>
    rw [gather, List.foldl_cons, adjust_map hsame]
    exact ih _

/-! ## Entries -/

section

variable [BEq κ]

/-- What the members of a key make of the initial value, in their order. -/
def gathered (initial : β) (key : α → κ) (change : α → β → β) (xs : List α) (k : κ) : β :=
  (xs.filter fun x => key x == k).foldl (fun v x => change x v) initial

theorem gathered_concat (xs : List α) (x : α) (k : κ) :
    gathered initial key change (xs ++ [x]) k =
      if key x == k then change x (gathered initial key change xs k)
      else gathered initial key change xs k := by
  rw [gathered, List.filter_append, List.foldl_append]
  cases h : key x == k <;> simp [h, gathered]

theorem counted_cons (j : κ) (n : Nat) (counts : List (κ × Nat)) (k : κ) :
    counted ((j, n) :: counts) k = if k == j then n else counted counts k := by
  rw [counted, List.lookup_cons]
  cases k == j <;> rfl

variable [LawfulBEq κ]

theorem gathered_of_not_mem {xs : List α} {k : κ} (h : k ∉ xs.map key) :
    gathered initial key change xs k = initial := by
  have hnone : (xs.filter fun x => key x == k) = [] := by
    rw [List.filter_eq_nil_iff]
    intro x hx hkey
    exact h (List.mem_map.2 ⟨x, hx, eq_of_beq hkey⟩)
  rw [gathered, hnone, List.foldl_nil]

theorem adjust_of_mem {ks : List κ} {k : κ} {increase : β → β} (v : κ → β) (hnodup : ks.Nodup)
    (hk : k ∈ ks) :
    adjust (fun k l => k == l) initial k increase (ks.map fun l => (l, v l)) =
      ks.map fun l => (l, if k == l then increase (v l) else v l) := by
  induction ks with
  | nil => cases hk
  | cons l ks ih =>
    obtain ⟨hl, hrest⟩ := List.nodup_cons.1 hnodup
    by_cases hkl : k = l
    · subst hkl
      have hothers : ∀ l ∈ ks, (l, if k == l then increase (v l) else v l) = (l, v l) := by
        intro l hmem
        have hne : k ≠ l := by
          rintro rfl
          exact hl hmem
        simp [hne]
      simp only [List.map_cons, adjust, beq_self_eq_true, if_true, List.map_congr_left hothers]
    · have hmem : k ∈ ks := (List.mem_cons.1 hk).resolve_left hkl
      have hbeq : (k == l) = false := beq_eq_false_iff_ne.2 hkl
      simp only [List.map_cons, adjust, hbeq, Bool.false_eq_true, if_false, ih hrest hmem]

theorem adjust_of_not_mem {ks : List κ} {k : κ} {increase : β → β} (v : κ → β) (hk : k ∉ ks) :
    adjust (fun k l => k == l) initial k increase (ks.map fun l => (l, v l)) =
      (ks.map fun l => (l, v l)) ++ [(k, increase initial)] := by
  induction ks with
  | nil => rfl
  | cons l ks ih =>
    have hbeq : (k == l) = false := beq_eq_false_iff_ne.2 (List.ne_of_not_mem_cons hk)
    simp only [List.map_cons, adjust, hbeq, Bool.false_eq_true, if_false,
      ih (List.not_mem_of_not_mem_cons hk), List.cons_append]

/-- What is gathered has an entry for each of the keys there were and of those that occur. -/
theorem gather_eq (initial : β) (key : α → κ) (change : α → β → β) {ks : List κ}
    (hnodup : ks.Nodup) (xs : List α) :
    ∃ new, (ks ++ new).Nodup ∧ (∀ k, k ∈ ks ++ new ↔ k ∈ ks ∨ k ∈ xs.map key) ∧
      gather (fun k l => k == l) initial key change (ks.map fun k => (k, initial)) xs =
        (ks ++ new).map fun k => (k, gathered initial key change xs k) := by
  -- The loop is a fold from the left, so it is the last member that is split off.
  induction xs using List.reverseRecOn with
  | nil => exact ⟨[], by simpa using hnodup, by simp, by simp [gather, gathered]⟩
  | append_singleton xs x ih =>
    obtain ⟨new, hnew, hmem, hgather⟩ := ih
    have hstep : gather (fun k l => k == l) initial key change (ks.map fun k => (k, initial))
          (xs ++ [x]) =
        adjust (fun k l => k == l) initial (key x) (change x)
          ((ks ++ new).map fun k => (k, gathered initial key change xs k)) := by
      rw [← hgather, gather, List.foldl_concat]
      rfl
    by_cases hx : key x ∈ ks ++ new
    · -- The entry is there and is changed.
      refine ⟨new, hnew, ?_, ?_⟩
      · intro k
        have hold : k = key x → k ∈ ks ∨ k ∈ xs.map key := by
          rintro rfl
          exact (hmem _).1 hx
        rw [hmem, List.map_append, List.mem_append, List.map_singleton, List.mem_singleton]
        tauto
      · simp only [hstep, adjust_of_mem _ hnew hx, gathered_concat]
    · -- No member had the key before, so the new entry changes the initial value.
      have hfresh : key x ∉ xs.map key := fun h => hx ((hmem _).2 (.inr h))
      have hothers : ∀ k ∈ ks ++ new, (k, gathered initial key change (xs ++ [x]) k) =
          (k, gathered initial key change xs k) := by
        intro k hk
        have hne : (key x == k) = false := by
          rw [beq_eq_false_iff_ne]
          rintro rfl
          exact hx hk
        rw [gathered_concat, hne]
        rfl
      refine ⟨new ++ [key x], ?_, ?_, ?_⟩
      · rw [← List.append_assoc, List.nodup_append]
        refine ⟨hnew, List.nodup_singleton _, ?_⟩
        intro k hk l hl
        obtain rfl := List.mem_singleton.1 hl
        rintro rfl
        exact hx hk
      · intro k
        rw [← List.append_assoc, List.mem_append, hmem, List.map_append, List.mem_append,
          List.map_singleton, or_assoc]
      · have hlast : gathered initial key change (xs ++ [x]) (key x) = change x initial := by
          rw [gathered_concat, if_pos (beq_self_eq_true _), gathered_of_not_mem hfresh]
        have hentries :
            ((ks ++ new) ++ [key x]).map (fun k => (k, gathered initial key change (xs ++ [x]) k)) =
              (ks ++ new).map (fun k => (k, gathered initial key change xs k)) ++
                [(key x, change x initial)] := by
          rw [List.map_append, List.map_singleton, hlast, List.map_congr_left hothers]
        rw [hstep, adjust_of_not_mem _ hx, ← List.append_assoc, hentries]

/-! ## Counts -/

theorem counted_adjust (counts : List (κ × Nat)) (k l : κ) :
    counted (adjust (fun k l => k == l) 0 l (· + 1) counts) k =
      counted counts k + if l == k then 1 else 0 := by
  induction counts with
  | nil =>
    rw [adjust, counted_cons, BEq.comm]
    cases l == k <;> rfl
  | cons entry rest ih =>
    obtain ⟨j, n⟩ := entry
    rw [adjust]
    by_cases hlj : l = j
    · subst hlj
      rw [if_pos (beq_self_eq_true l), counted_cons, counted_cons]
      by_cases hlk : l = k <;> simp [hlk, Ne.symm]
    · rw [if_neg (by simpa using hlj), counted_cons, counted_cons, ih]
      by_cases hkj : k = j
      · subst hkj
        simp [hlj]
      · simp [hkj]

/-- A key is counted as often as it occurs. -/
theorem counted_tally (counts : List (κ × Nat)) (ks : List κ) (k : κ) :
    counted (tally counts ks) k = counted counts k + ks.count k := by
  induction ks generalizing counts with
  | nil => simp [tally, gather]
  | cons l ks ih =>
    have hrest := ih (adjust (fun k l => k == l) 0 l (· + 1) counts)
    rw [counted_adjust] at hrest
    rw [List.count_cons, ← Nat.add_assoc, Nat.add_right_comm]
    exact hrest

end

end Automation
