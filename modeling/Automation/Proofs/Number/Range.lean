import Automation.Number.Double
import Mathlib.Tactic.Ring
import Mathlib.Tactic.SplitIfs

/-!
# The range of the doubles

A double has an exact value exactly if it is finite (`Double.isFinite_iff`).  An integer takes part
in orderings if it is smaller in size than `Number.integerLimit`, and that is the same as to have a
finite double nearest to it (`Double.isFinite_ofInt_iff`).

At a size of `N` with `2 ^ k ≤ N < 2 ^ (k + 1)` the nearest double has the exponent `k - 52`, or the
next one when the mantissa is rounded up to 54 bits (`Double.isFinite_ofQuotient_one_iff`).  So the
exponent is too large from `k = 1024` on, and for `k = 1023` if the rounding carries, which it does
in the upper half of the last unit.
-/

namespace Automation

/-- Numbers of known values compare as their values. -/
theorem Number.eq_of_values {x y : Number} {a b : Rat} (hx : x.toRat? = some a)
    (hy : y.toRat? = some b) : x.eq y = decide (a = b) := by
  simp [Number.eq, hx, hy, beq_eq_decide]

theorem Number.not_isNan_of_value {x : Number} {a : Rat} (hx : x.toRat? = some a) :
    x.isNan = false := by
  cases x with
  | int => rfl
  | double x =>
    cases x with
    | nan => cases hx
    | _ => rfl

theorem Number.lt_of_values {x y : Number} {a b : Rat} (hx : x.toRat? = some a)
    (hy : y.toRat? = some b) : x.lt y = decide (a < b) := by
  simp [Number.lt, not_isNan_of_value hx, not_isNan_of_value hy, hx, hy]

/-- The limit of the integers in range, in units of `2 ^ 970`. -/
theorem Number.integerLimit_eq : integerLimit = (2 ^ 54 - 1) * 2 ^ 970 := by
  decide +kernel

/-- A quotient below `q + 1`, where `q` is odd, rounds up to it from the middle on. -/
theorem roundQuotient_eq_succ_iff {num den q : Nat} (hq : q % 2 = 1) (hnum : num < (q + 1) * den) :
    roundQuotient num den = q + 1 ↔ (2 * q + 1) * den ≤ 2 * num := by
  have hden : 0 < den := Nat.pos_of_ne_zero (by rintro rfl; simp at hnum)
  have hquotient : num / den ≤ q := Nat.le_of_lt_succ (Nat.div_lt_of_lt_mul (by rwa [mul_comm]))
  have hrest := Nat.mod_lt num hden
  have hsplit := Nat.div_add_mod num den
  have hfull : (2 * q + 1) * den = 2 * (q * den) + den := by ring
  rw [hfull]
  simp only [roundQuotient]
  rcases Nat.lt_or_eq_of_le hquotient with hlt | heq
  · have hbelow : den * (num / den) + den ≤ q * den := by
      calc den * (num / den) + den = (num / den + 1) * den := by ring
        _ ≤ q * den := Nat.mul_le_mul_right den hlt
    refine iff_of_false ?_ (by omega)
    split_ifs <;> omega
  · rw [heq, mul_comm] at hsplit
    rw [heq, hq, if_neg Nat.one_ne_zero]
    split_ifs
    · omega
    · omega
    · omega

namespace Double

/-- The first guess at the exponent of an integer is too small by one. -/
theorem exponent_of_nat {N : Nat} (hN : N ≠ 0) :
    (let e := exponentGuess N 1; if tooFine N 1 e then e + 1 else e) = (N.log2 : Int) - 52 := by
  have hguess : exponentGuess N 1 = (N.log2 : Int) - 53 := by
    have hone : Nat.log2 1 = 0 := rfl
    simp only [exponentGuess, minExponent, hone]
    omega
  have hfine : tooFine N 1 ((N.log2 : Int) - 53) = true := by
    have hsize := Nat.log2_self_le hN
    simp only [tooFine, Nat.pow_eq, Nat.one_mul, Nat.mul_one]
    split
    · rename_i hlarge
      obtain ⟨j, hj⟩ : ∃ j : Nat, N.log2 = 53 + j := ⟨N.log2 - 53, by omega⟩
      have hexponent : ((N.log2 : Int) - 53).toNat = j := by omega
      rw [hexponent, ← Nat.pow_add, ← hj]
      exact decide_eq_true hsize
    · rename_i hsmall
      obtain ⟨j, hj⟩ : ∃ j : Nat, 53 = N.log2 + j := ⟨53 - N.log2, by omega⟩
      have hexponent : (-((N.log2 : Int) - 53)).toNat = j := by omega
      rw [hexponent]
      have hscaled : 2 ^ 53 ≤ N * 2 ^ j := by
        calc 2 ^ 53 = 2 ^ N.log2 * 2 ^ j := by rw [← Nat.pow_add, ← hj]
          _ ≤ N * 2 ^ j := Nat.mul_le_mul_right _ hsize
      exact decide_eq_true hscaled
  simp only [hguess, hfine, if_true]
  omega

/-- The nearest double to an integer has the exponent of its leading bit, or the next one if the
mantissa is rounded up to another bit. -/
theorem isFinite_ofQuotient_one_iff {negative : Bool} {N : Nat} (hN : N ≠ 0) :
    (ofQuotient negative N 1).isFinite = true ↔
      (N.log2 : Int) ≤ 1022 ∨
        (N.log2 : Int) = 1023 ∧ mantissaAt N 1 ((N.log2 : Int) - 52) ≠ 2 ^ 53 := by
  have he := exponent_of_nat hN
  simp only [ofQuotient, if_neg hN]
  simp only at he
  rw [he]
  simp only [maxExponent, Nat.pow_eq]
  split_ifs <;> simp [isFinite] <;> omega

/-! ### Integers by the place of their leading bit -/

theorem lt_of_log2_lt {N : Nat} (k : Nat) (h : N.log2 < 53 + k) : N < (2 ^ 54 - 1) * 2 ^ k := by
  have hsize := Nat.lt_log2_self (n := N)
  have hpow : 2 ^ (N.log2 + 1) ≤ 2 ^ (53 + k) := Nat.pow_le_pow_right Nat.two_pos h
  rw [Nat.pow_add 2 53] at hpow
  omega

theorem le_of_lt_log2 {N : Nat} (k : Nat) (hN : N ≠ 0) (h : 53 + k < N.log2) :
    (2 ^ 54 - 1) * 2 ^ k ≤ N := by
  have hsize := Nat.log2_self_le hN
  have hpow : 2 ^ (54 + k) ≤ 2 ^ N.log2 := Nat.pow_le_pow_right Nat.two_pos (by omega)
  rw [Nat.pow_add 2 54] at hpow
  omega

/-- The mantissa is rounded up to another bit in the upper half of the last unit. -/
theorem roundQuotient_carries_iff {N : Nat} (k : Nat) (h : N.log2 = 53 + k) :
    roundQuotient N (2 ^ (1 + k)) = 2 ^ 53 ↔ (2 ^ 54 - 1) * 2 ^ k ≤ N := by
  have hcarry : 2 ^ 53 = 2 ^ 53 - 1 + 1 := rfl
  have hsize : N < (2 ^ 53 - 1 + 1) * 2 ^ (1 + k) := by
    calc N < 2 ^ (N.log2 + 1) := Nat.lt_log2_self
      _ = 2 ^ 53 * 2 ^ (1 + k) := by rw [h, Nat.add_assoc, Nat.add_comm k 1, Nat.pow_add]
  rw [hcarry, roundQuotient_eq_succ_iff rfl hsize, Nat.pow_add]
  omega

theorem mantissaAt_natCast (N k : Nat) : mantissaAt N 1 (k : Int) = roundQuotient N (2 ^ k) := by
  rw [mantissaAt, if_pos (Int.natCast_nonneg k), Int.toNat_natCast, Nat.one_mul, Nat.pow_eq]

/-- An integer is in range exactly if the double nearest to it is finite. -/
theorem isFinite_ofInt_iff {n : Int} :
    (ofInt n).isFinite = true ↔ (Number.int n).isFinite = true := by
  rw [Number.isFinite, decide_eq_true_iff, Number.integerLimit_eq, ofInt]
  by_cases hN : n.natAbs = 0
  · rw [hN, ofQuotient, if_pos rfl]
    exact iff_of_true rfl (by decide +kernel)
  rw [isFinite_ofQuotient_one_iff hN]
  rcases Nat.lt_trichotomy n.natAbs.log2 1023 with hsmall | hlast | hlarge
  · exact iff_of_true (.inl (by omega)) (lt_of_log2_lt 970 hsmall)
  · have hexponent : (n.natAbs.log2 : Int) - 52 = ((1 + 970 : Nat) : Int) := by omega
    rw [hexponent, mantissaAt_natCast, ne_eq, roundQuotient_carries_iff 970 hlast]
    omega
  · exact iff_of_false (by omega) (Nat.not_lt_of_le (le_of_lt_log2 970 hN hlarge))

end Double

end Automation
