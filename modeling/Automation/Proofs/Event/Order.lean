import Automation.Proofs.Event.Places
import Automation.Proofs.Number.Range

/-!
# Conditions on numbers

A value *amounts* to a rational if it is an integer or a finite double of this exact value
(`Value.Amounts`).  Equality of numbers is equality of what they amount to, whatever their size.

An ordering asks for more: both numbers must be *in range*, that is, the doubles nearest to them
must be finite (`Value.InRange`).  Then it is the order of what they amount to
(`Value.less_iff_of_amounts`), so of two numbers in range exactly one of less, equal and greater
holds (`holds_in_order`).  An integer out of range is in no order, so all three fail where it is
compared with another number (`order_out_of_range`).
-/

namespace Automation

namespace Value

/-! ## Exact values -/

/-- A value is a finite number of this exact value.  A truth value is not a number. -/
inductive Amounts : Value → Rat → Prop where
  | int (n : Int) : Amounts (.int n) n
  | float {x : Double} {q : Rat} (h : x.toRat? = some q) : Amounts (.float x) q

/-- A number whose nearest double is finite. -/
inductive InRange : Value → Prop where
  | int {n : Int} (h : (Double.ofInt n).isFinite = true) : InRange (.int n)
  | float {x : Double} (h : x.isFinite = true) : InRange (.float x)

theorem amounts_iff {v : Value} {q : Rat} :
    Amounts v q ↔ ∃ x, v.number? = some x ∧ x.toRat? = some q := by
  constructor
  · intro h
    cases h with
    | int n => exact ⟨_, rfl, rfl⟩
    | float h => exact ⟨_, rfl, h⟩
  · rintro ⟨x, hx, hq⟩
    cases v with
    | int n =>
      cases hx
      cases hq
      exact .int n
    | float y =>
      cases hx
      exact .float hq
    | _ => cases hx

/-- The numbers in range take part in orderings. -/
theorem ordered?_eq_some_iff {v : Value} {x : Number} :
    v.ordered? = some x ↔ v.number? = some x ∧ InRange v := by
  rw [ordered?, Option.filter_eq_some_iff]
  refine and_congr_right fun hx => ?_
  cases v with
  | int n =>
    cases hx
    rw [← Double.isFinite_ofInt_iff]
    constructor
    · exact .int
    · intro hrange
      cases hrange with
      | int h => exact h
  | float y =>
    cases hx
    constructor
    · exact .float
    · intro hrange
      cases hrange with
      | float h => exact h
  | _ => cases hx

theorem less_of_inRange {a b : Value} {p q : Rat} (ha : InRange a) (hb : InRange b)
    (hp : Amounts a p) (hq : Amounts b q) : a.less b = decide (p < q) := by
  obtain ⟨x, hx, hxp⟩ := amounts_iff.1 hp
  obtain ⟨y, hy, hyq⟩ := amounts_iff.1 hq
  simp only [less, ordered?_eq_some_iff.2 ⟨hx, ha⟩, ordered?_eq_some_iff.2 ⟨hy, hb⟩]
  exact Number.lt_of_values hxp hyq

/-- An ordering that holds is one between numbers in range. -/
theorem less_inRange {a b : Value} (h : a.less b = true) : InRange a ∧ InRange b := by
  rw [less] at h
  cases ha : a.ordered? with
  | none =>
    rw [ha] at h
    cases h
  | some x =>
    cases hb : b.ordered? with
    | none =>
      rw [ha, hb] at h
      cases h
    | some y => exact ⟨(ordered?_eq_some_iff.1 ha).2, (ordered?_eq_some_iff.1 hb).2⟩

/-- A number is less than another one if both are in range and it amounts to less. -/
theorem less_iff_of_amounts {a b : Value} {p q : Rat} (hp : Amounts a p) (hq : Amounts b q) :
    a.less b = true ↔ (InRange a ∧ InRange b) ∧ p < q := by
  constructor
  · intro h
    obtain ⟨ha, hb⟩ := less_inRange h
    rw [less_of_inRange ha hb hp hq] at h
    exact ⟨⟨ha, hb⟩, of_decide_eq_true h⟩
  · rintro ⟨⟨ha, hb⟩, hlt⟩
    rw [less_of_inRange ha hb hp hq]
    exact decide_eq_true hlt

/-- Numbers are equal if they amount to the same. -/
theorem equals_of_amounts {a b : Value} {p q : Rat} (hp : Amounts a p) (hq : Amounts b q) :
    a.equals b = decide (p = q) := by
  obtain ⟨x, hx, hxp⟩ := amounts_iff.1 hp
  obtain ⟨y, hy, hyq⟩ := amounts_iff.1 hq
  rw [← Number.eq_of_values hxp hyq]
  cases hp <;> cases hq <;> cases hx <;> cases hy <;> rfl

end Value

/-! ## Conditions -/

namespace Operator

/-- The operators that compare numbers. -/
def comparisons : List Operator := [.lessThan, .equals, .greaterThan]

/-- The comparison that holds between numbers in this order. -/
def ofOrdering : Ordering → Operator
  | .lt => .lessThan
  | .eq => .equals
  | .gt => .greaterThan

theorem lessThan_eq_ofOrdering_iff {p q : Rat} : lessThan = ofOrdering (compare p q) ↔ p < q := by
  rw [← compare_lt_iff_lt]
  cases compare p q <;> simp [ofOrdering]

theorem equals_eq_ofOrdering_iff {p q : Rat} : equals = ofOrdering (compare p q) ↔ p = q := by
  rw [← compare_eq_iff_eq (a := p) (b := q)]
  cases compare p q <;> simp [ofOrdering]

theorem greaterThan_eq_ofOrdering_iff {p q : Rat} :
    greaterThan = ofOrdering (compare p q) ↔ q < p := by
  rw [← compare_gt_iff_gt]
  cases compare p q <;> simp [ofOrdering]

end Operator

namespace Condition

variable {context field literal v : Value} {p q : Rat}

/-- Where a number stands, the comparison with another one holds that their exact values tell; an
ordering besides needs both in range. -/
theorem holds_comparison_iff (hv : context.Leads field v) (hp : v.Amounts p)
    (hq : literal.Amounts q) {op : Operator} (hop : op ∈ Operator.comparisons) :
    (comparing field op literal).holds context = true ↔
      op = .ofOrdering (compare p q) ∧ (op = .equals ∨ v.InRange ∧ literal.InRange) := by
  rw [holds_comparing_of_leads hv]
  cases op with
  | lessThan =>
    rw [Operator.holds, Option.getD_some, Value.less_iff_of_amounts hp hq,
      Operator.lessThan_eq_ofOrdering_iff]
    simp [and_comm]
  | equals =>
    rw [Operator.holds, Option.getD_some, Value.equals_of_amounts hp hq, decide_eq_true_iff,
      Operator.equals_eq_ofOrdering_iff]
    simp
  | greaterThan =>
    rw [Operator.holds, Option.getD_some, Value.less_iff_of_amounts hq hp,
      Operator.greaterThan_eq_ofOrdering_iff]
    simp [and_comm]
  | notEquals | contains | isIn => simp [Operator.comparisons] at hop

/-- An ordering that holds is one between numbers in range. -/
theorem inRange_of_ordering {op : Operator} (hop : op = .lessThan ∨ op = .greaterThan)
    (h : (comparing field op literal).holds context = true) :
    literal.InRange ∧ ∃ v, context.Leads field v ∧ v.InRange := by
  obtain ⟨found, hfound, hholds⟩ := holds_comparing.1 h
  have hranges : (found.getD .null).InRange ∧ literal.InRange := by
    rcases hop with rfl | rfl
    · exact (Value.less_inRange hholds)
    · exact (Value.less_inRange hholds).symm
  cases found with
  | none => cases hranges.1
  | some v => exact ⟨hranges.2, v, Value.resolveAt_eq_some_iff.1 hfound, hranges.1⟩

end Condition

/-- Of less, equal and greater, exactly the one holds that is told by the exact values of the number
at a path and the literal, provided that both are in range.  Out of range, equality is still exact
and neither ordering holds; nor does it where a side is no finite number. -/
theorem holds_in_order (context field literal : Value) :
    (∀ v p q, context.Leads field v → v.Amounts p → literal.Amounts q →
      ∀ op ∈ Operator.comparisons,
        ((Condition.comparing field op literal).holds context = true ↔
          op = .ofOrdering (compare p q) ∧ (op = .equals ∨ v.InRange ∧ literal.InRange))) ∧
    (∀ op, op = .lessThan ∨ op = .greaterThan →
      (Condition.comparing field op literal).holds context = true →
        literal.InRange ∧ ∃ v, context.Leads field v ∧ v.InRange) :=
  ⟨fun _ _ _ hv hp hq _ hop => Condition.holds_comparison_iff hv hp hq hop,
    fun _ hop h => Condition.inRange_of_ordering hop h⟩

/-- The integer after `2 ^ 53` is greater than this double, though the doubles nearest to both are
the same. -/
theorem holds_in_order_above_mantissa :
    (Condition.comparing (.text "amount") .greaterThan (.float (.finite false (2 ^ 52) 1))).holds
      (.mapping [("amount", .int (2 ^ 53 + 1))]) = true := by
  have hplace : Value.Leads (.mapping [("amount", .int (2 ^ 53 + 1))]) (.text "amount")
      (.int (2 ^ 53 + 1)) := Value.resolveAt_eq_some_iff.1 rfl
  have hliteral : Value.Amounts (.float (.finite false (2 ^ 52) 1)) (2 ^ 53) :=
    .float (by decide +kernel)
  refine ((holds_in_order _ _ _).1 _ _ _ hplace (.int (2 ^ 53 + 1)) hliteral .greaterThan ?_).2 ?_
  · decide
  · refine ⟨by decide +kernel, .inr ⟨.int (by decide +kernel), .float rfl⟩⟩

/-- An event with the first integer out of range. -/
def outOfRange : Value := .mapping [("amount", .int Number.integerLimit)]

/-- The first integer out of range is positive, and is neither less than zero nor equal to it nor
greater. -/
theorem order_out_of_range :
    (Condition.comparing (.text "amount") .lessThan (.int 0)).holds outOfRange = false ∧
      (Condition.comparing (.text "amount") .equals (.int 0)).holds outOfRange = false ∧
      (Condition.comparing (.text "amount") .greaterThan (.int 0)).holds outOfRange = false := by
  decide +kernel

end Automation
