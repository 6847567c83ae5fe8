import Automation.Workflow.Rules
import Mathlib.Data.List.Forall2
import Mathlib.Data.List.Perm.Basic

/-!
# Checks that may fail

What a chain of checks gives is what its links give (`bind_eq_ok_iff`), and what a check of every
member of a list gives is what the members give, one by one (`checkEach_eq_ok_iff`).  Lists that
are related member by member are looked at through their members.
-/

namespace Automation

theorem bind_eq_ok_iff {ε α β : Type} {x : Except ε α} {f : α → Except ε β} {b : β} :
    (x >>= f) = .ok b ↔ ∃ a, x = .ok a ∧ f a = .ok b := by
  cases x with
  | error e =>
    constructor
    · intro h
      cases h
    · rintro ⟨_, h, _⟩
      cases h
  | ok a =>
    constructor
    · intro h
      exact ⟨a, rfl, h⟩
    · rintro ⟨_, ha, h⟩
      cases ha
      exact h

theorem bind_eq_error_iff {ε α β : Type} {x : Except ε α} {f : α → Except ε β} {e : ε} :
    (x >>= f) = .error e ↔ x = .error e ∨ ∃ a, x = .ok a ∧ f a = .error e := by
  cases x with
  | error e' =>
    constructor
    · intro h
      cases h
      exact .inl rfl
    · rintro (h | ⟨_, h, _⟩)
      · cases h
        rfl
      · cases h
  | ok a =>
    constructor
    · intro h
      exact .inr ⟨a, rfl, h⟩
    · rintro (h | ⟨_, ha, h⟩)
      · cases h
      · cases ha
        exact h

theorem pure_eq_ok_iff {ε α : Type} {a b : α} : (pure a : Except ε α) = .ok b ↔ a = b := by
  constructor
  · intro h
    cases h
    rfl
  · rintro rfl
    rfl

theorem mapError_eq_ok_iff {ε ε' α : Type} {x : Except ε α} {f : ε → ε'} {a : α} :
    x.mapError f = .ok a ↔ x = .ok a := by
  cases x <;> simp [Except.mapError]

theorem mapError_eq_error_iff {ε ε' α : Type} {x : Except ε α} {f : ε → ε'} {e : ε'} :
    x.mapError f = .error e ↔ ∃ d, x = .error d ∧ f d = e := by
  cases x <;> simp [Except.mapError]

theorem mapError_mapError {ε ε' ε'' α : Type} (x : Except ε α) (f : ε → ε') (g : ε' → ε'') :
    (x.mapError f).mapError g = x.mapError (g ∘ f) := by
  cases x <;> rfl

theorem map_eq_ok_iff {ε α β : Type} {x : Except ε α} {f : α → β} {b : β} :
    x.map f = .ok b ↔ ∃ a, x = .ok a ∧ f a = b := by
  cases x <;> simp [Except.map]

/-- A check of every member that is told by a relation, wherever the member stands, is told by the
relation between the lists. -/
theorem checkEach_eq_ok_iff {α β : Type} {check : Nat → α → Except RuleError β} {R : α → β → Prop}
    (h : ∀ i x y, check i x = .ok y ↔ R x y) :
    ∀ {i : Nat} {xs : List α} {ys : List β}, checkEach check i xs = .ok ys ↔ List.Forall₂ R xs ys
  | _, [], ys => by
    rw [checkEach, List.forall₂_nil_left_iff]
    constructor
    · intro h
      cases h
      rfl
    · rintro rfl
      rfl
  | i, x :: xs, ys => by
    simp only [checkEach, bind_eq_ok_iff, pure_eq_ok_iff, h, checkEach_eq_ok_iff h]
    constructor
    · rintro ⟨y, hy, ys', hys, rfl⟩
      exact .cons hy hys
    · intro hall
      cases hall with
      | cons hy hys => exact ⟨_, hy, _, hys, rfl⟩

/-! ## Lists related member by member -/

/-- Every member that a relation between lists leads to comes from a member. -/
theorem exists_mem_of_forall₂ {α β : Type} {R : α → β → Prop} {xs : List α} {ys : List β}
    (h : List.Forall₂ R xs ys) : ∀ y ∈ ys, ∃ x ∈ xs, R x y := by
  induction h with
  | nil => simp
  | @cons x z xs _ hxz _ ih =>
    intro y hy
    rcases List.mem_cons.1 hy with rfl | hy
    · exact ⟨x, List.mem_cons_self, hxz⟩
    · obtain ⟨x', hx', hR⟩ := ih y hy
      exact ⟨x', List.mem_cons_of_mem x hx', hR⟩

/-- A relation between lists implies another one that it implies for their members. -/
theorem forall₂_imp_of_mem {α β : Type} {R S : α → β → Prop} {xs : List α} {ys : List β}
    (hall : List.Forall₂ R xs ys) (h : ∀ x ∈ xs, ∀ y ∈ ys, R x y → S x y) :
    List.Forall₂ S xs ys := by
  induction hall with
  | nil => exact .nil
  | @cons x y xs ys hxy _ ih =>
    refine .cons (h x List.mem_cons_self y List.mem_cons_self hxy) (ih fun x' hx' y' hy' => ?_)
    exact h x' (List.mem_cons_of_mem x hx') y' (List.mem_cons_of_mem y hy')

/-- What is the same for related members is the same for the lists. -/
theorem map_eq_map_of_forall₂ {α β γ : Type} {R : α → β → Prop} {f : α → γ} {g : β → γ}
    {xs : List α} {ys : List β} (hall : List.Forall₂ R xs ys) (h : ∀ x y, R x y → f x = g y) :
    xs.map f = ys.map g := by
  induction hall with
  | nil => rfl
  | cons hxy _ ih => rw [List.map_cons, List.map_cons, h _ _ hxy, ih]

/-- A list is one of its members and the others. -/
theorem perm_cons_eraseIdx {α : Type} {xs : List α} {i : Nat} {x : α} (h : xs[i]? = some x) :
    xs.Perm (x :: xs.eraseIdx i) := by
  obtain ⟨hi, rfl⟩ := List.getElem?_eq_some_iff.1 h
  exact (List.getElem_cons_eraseIdx_perm hi).symm

/-- A member put in the place of another one leaves the others. -/
theorem set_perm_cons_eraseIdx {α : Type} {xs : List α} {i : Nat} {x : α} (h : xs[i]? = some x)
    (y : α) : (xs.set i y).Perm (y :: xs.eraseIdx i) :=
  List.set_perm_cons_eraseIdx (List.getElem?_eq_some_iff.1 h).1 y

end Automation
