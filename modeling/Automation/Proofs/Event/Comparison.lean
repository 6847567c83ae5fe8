import Automation.Proofs.Event.Places
import Automation.Proofs.Number.Range

/-!
# What comparisons see

Of a primitive that equals anything equality sees a *mark* only: that it is null, which truth value
or text it is, or which place on the extended line of numbers it has.  Not-a-number has no mark, and
neither have sequences, mappings and bytes.  Two values are equal exactly if they have the same mark
(`Value.equals_iff`), so equality is symmetric and transitive, and reflexive on what has a mark.

The operators that ask for equality agree with one another, since each of them is told by the
equality of the value at a path, a missing one being null, with a literal or its items
(`equality_operators_agree`).

An operator sees no more of a value than its *outline* (`Operator.holds_of_outline_eq`): a
primitive, the primitives among the items of a sequence, or nothing.
-/

namespace Automation

/-! ## Marks -/

/-- What equality sees of a primitive. -/
inductive Mark where
  | null
  | truth (b : Bool)
  | text (s : String)
  | amount (q : Rat)
  | infinity (negative : Bool)
deriving DecidableEq

/-- The classes of primitives. -/
inductive PrimitiveClass where
  | null
  | truth
  | text
  | number
deriving DecidableEq, Repr

/-- The class of what has a mark. -/
def Mark.primitiveClass : Mark → PrimitiveClass
  | .null => .null
  | .truth _ => .truth
  | .text _ => .text
  | .amount _ => .number
  | .infinity _ => .number

/-- The mark of a number. -/
def Number.mark? : Number → Option Mark
  | .double (.infinite negative) => some (.infinity negative)
  | x => x.toRat?.map .amount

namespace Value

/-- The mark of a value. -/
def mark? : Value → Option Mark
  | .null => some .null
  | .bool b => some (.truth b)
  | .text s => some (.text s)
  | v => v.number?.bind Number.mark?

/-- The class of a primitive. -/
def primitiveClass? : Value → Option PrimitiveClass
  | .null => some .null
  | .bool _ => some .truth
  | .text _ => some .text
  | .int _ => some .number
  | .float _ => some .number
  | _ => none

end Value

namespace Number

/-- A number has an exact value, or is an infinity, or is not a number. -/
theorem value_cases (x : Number) :
    (∃ q, x.toRat? = some q ∧ x.mark? = some (.amount q)) ∨
      (∃ negative, x = .double (.infinite negative)) ∨ x = .double .nan := by
  cases x with
  | int n => exact .inl ⟨n, rfl, rfl⟩
  | double x =>
    cases x with
    | finite => exact .inl ⟨_, rfl, rfl⟩
    | infinite negative => exact .inr (.inl ⟨negative, rfl⟩)
    | nan => exact .inr (.inr rfl)

theorem eq_of_value_left {x y : Number} {q : Rat} (hx : x.toRat? = some q)
    (hy : y.toRat? = none) : x.eq y = false := by
  simp only [eq, hx, hy]

theorem eq_of_value_right {x y : Number} {q : Rat} (hx : x.toRat? = none)
    (hy : y.toRat? = some q) : x.eq y = false := by
  simp only [eq, hx, hy]

/-- Numbers are equal exactly if they have the same mark. -/
theorem eq_iff {x y : Number} : x.eq y = true ↔ ∃ m, x.mark? = some m ∧ y.mark? = some m := by
  rcases value_cases x with ⟨p, hp, hx⟩ | ⟨a, rfl⟩ | rfl
  · rw [hx]
    rcases value_cases y with ⟨q, hq, hy⟩ | ⟨b, rfl⟩ | rfl
    · rw [hy, eq_of_values hp hq]
      simpa using eq_comm
    · rw [eq_of_value_left hp rfl]
      simp [mark?]
    · rw [eq_of_value_left hp rfl]
      simp [mark?, toRat?, Double.toRat?]
  · rcases value_cases y with ⟨q, hq, hy⟩ | ⟨b, rfl⟩ | rfl
    · rw [eq_of_value_right rfl hq, hy]
      simp [mark?]
    · cases a <;> cases b <;> decide
    · cases a <;> decide
  · have hnone : (double .nan).mark? = none := rfl
    rcases value_cases y with ⟨q, hq, hy⟩ | ⟨b, rfl⟩ | rfl
    · rw [eq_of_value_right rfl hq, hnone]
      simp
    · cases b <;> decide
    · decide

end Number

/-- The mark of a number is one of a number. -/
theorem primitiveClass_of_number {x : Number} {m : Mark} (h : x.mark? = some m) :
    m.primitiveClass = .number := by
  rcases Number.value_cases x with ⟨q, -, hq⟩ | ⟨negative, rfl⟩ | rfl
  · rw [hq] at h
    cases h
    rfl
  · cases h
    rfl
  · cases h

namespace Value

variable {a b c : Value}

theorem equals_of_numbers {x y : Number} (ha : a.number? = some x) (hb : b.number? = some y) :
    a.equals b = x.eq y := by
  cases a with
  | int | float =>
    cases b with
    | int | float =>
      cases ha
      cases hb
      rfl
    | _ => cases hb
  | _ => cases ha

/-- Null, a truth value and a text have marks of their own, and all others are marks of numbers. -/
theorem mark?_cases {m : Mark} (h : a.mark? = some m) :
    (a = .null ∧ m = .null) ∨ (∃ t, a = .bool t ∧ m = .truth t) ∨ (∃ s, a = .text s ∧ m = .text s) ∨
      ∃ x, a.number? = some x ∧ x.mark? = some m := by
  cases a with
  | null =>
    cases h
    exact .inl ⟨rfl, rfl⟩
  | bool t =>
    cases h
    exact .inr (.inl ⟨t, rfl, rfl⟩)
  | text s =>
    cases h
    exact .inr (.inr (.inl ⟨s, rfl, rfl⟩))
  | int | float => exact .inr (.inr (.inr ⟨_, rfl, h⟩))
  | _ => cases h

theorem mark?_of_number {x : Number} (h : a.number? = some x) : a.mark? = x.mark? := by
  cases a with
  | int | float =>
    cases h
    rfl
  | _ => cases h

/-- What has a mark is a primitive of the class that the mark tells. -/
theorem primitiveClass?_of_mark? {m : Mark} (h : a.mark? = some m) :
    a.primitiveClass? = some m.primitiveClass := by
  rcases mark?_cases h with ⟨rfl, rfl⟩ | ⟨t, rfl, rfl⟩ | ⟨s, rfl, rfl⟩ | ⟨x, hx, hm⟩
  · rfl
  · rfl
  · rfl
  · rw [primitiveClass_of_number hm]
    cases a with
    | int | float => rfl
    | _ => cases hx

/-- Equal values have a mark in common. -/
theorem exists_mark_of_equals (h : a.equals b = true) :
    ∃ m, a.mark? = some m ∧ b.mark? = some m := by
  unfold equals at h
  split at h
  · exact ⟨.null, rfl, rfl⟩
  · obtain rfl := eq_of_beq h
    exact ⟨_, rfl, rfl⟩
  · obtain rfl := eq_of_beq h
    exact ⟨_, rfl, rfl⟩
  · split at h
    · rename_i hx hy
      rw [mark?_of_number hx, mark?_of_number hy]
      exact Number.eq_iff.1 h
    · cases h

theorem equals_of_mark? {m : Mark} (ha : a.mark? = some m) (hb : b.mark? = some m) :
    a.equals b = true := by
  rcases mark?_cases ha with ⟨rfl, rfl⟩ | ⟨t, rfl, rfl⟩ | ⟨s, rfl, rfl⟩ | ⟨x, hx, hm⟩
  · rcases mark?_cases hb with ⟨rfl, -⟩ | ⟨_, -, ⟨⟩⟩ | ⟨_, -, ⟨⟩⟩ | ⟨y, -, hy⟩
    · rfl
    · cases primitiveClass_of_number hy
  · rcases mark?_cases hb with ⟨-, ⟨⟩⟩ | ⟨_, rfl, ⟨⟩⟩ | ⟨_, -, ⟨⟩⟩ | ⟨y, -, hy⟩
    · exact beq_self_eq_true t
    · cases primitiveClass_of_number hy
  · rcases mark?_cases hb with ⟨-, ⟨⟩⟩ | ⟨_, -, ⟨⟩⟩ | ⟨_, rfl, ⟨⟩⟩ | ⟨y, -, hy⟩
    · exact beq_self_eq_true s
    · cases primitiveClass_of_number hy
  · have hclass := primitiveClass_of_number hm
    rcases mark?_cases hb with ⟨-, rfl⟩ | ⟨_, -, rfl⟩ | ⟨_, -, rfl⟩ | ⟨y, hy, hm'⟩
    · cases hclass
    · cases hclass
    · cases hclass
    · rw [equals_of_numbers hx hy]
      exact Number.eq_iff.2 ⟨m, hm, hm'⟩

/-- Values are equal exactly if they have the same mark. -/
theorem equals_iff : a.equals b = true ↔ ∃ m, a.mark? = some m ∧ b.mark? = some m :=
  ⟨exists_mark_of_equals, fun ⟨_, ha, hb⟩ => equals_of_mark? ha hb⟩

theorem equals_comm : a.equals b = b.equals a := by
  rw [Bool.eq_iff_iff, equals_iff, equals_iff]
  simp only [and_comm]

theorem equals_trans (hab : a.equals b = true) (hbc : b.equals c = true) : a.equals c = true := by
  obtain ⟨m, ha, hb⟩ := equals_iff.1 hab
  obtain ⟨m', hb', hc⟩ := equals_iff.1 hbc
  rw [hb] at hb'
  cases hb'
  exact equals_iff.2 ⟨m, ha, hc⟩

/-- All primitives but not-a-number have marks. -/
theorem isSome_mark?_iff : a.mark?.isSome = true ↔ a.isPrimitive = true ∧ a ≠ .float .nan := by
  cases a with
  | float x =>
    cases x <;>
      simp [mark?, number?, Number.mark?, Number.toRat?, Double.toRat?, isPrimitive]
  | _ => simp [mark?, number?, Number.mark?, Number.toRat?, isPrimitive]

theorem equals_self_iff : a.equals a = true ↔ a.isPrimitive = true ∧ a ≠ .float .nan := by
  rw [equals_iff, ← isSome_mark?_iff, Option.isSome_iff_exists]
  simp only [and_self]

/-- Equal values are primitives of one class. -/
theorem primitiveClass?_of_equals (h : a.equals b = true) :
    ∃ k, a.primitiveClass? = some k ∧ b.primitiveClass? = some k := by
  obtain ⟨m, ha, hb⟩ := equals_iff.1 h
  exact ⟨_, primitiveClass?_of_mark? ha, primitiveClass?_of_mark? hb⟩

end Value

/-! ## Operators that ask for equality -/

namespace Condition

variable {context field literal : Value}

/-- A literal equals the value at a path, a missing one being null, if the path does not stumble. -/
theorem holds_equals_iff :
    (comparing field .equals literal).holds context = true ↔
      ∃ found, context.resolveAt field = .ok found ∧
        (found.getD .null).equals literal = true := holds_comparing

/-- A value is in a sequence if it equals one of the items. -/
theorem holds_isIn_iff :
    (comparing field .isIn literal).holds context = true ↔
      ∃ items, literal.items? = some items ∧
        ∃ v ∈ items, (comparing field .equals v).holds context = true := by
  simp only [holds_comparing, Operator.holds]
  cases literal.items? with
  | none => simp
  | some items =>
    simp only [List.any_eq_true, Option.some.injEq, exists_eq_left']
    constructor
    · rintro ⟨found, hfound, v, hv, hequals⟩
      exact ⟨v, hv, found, hfound, hequals⟩
    · rintro ⟨v, hv, found, hfound, hequals⟩
      exact ⟨found, hfound, v, hv, hequals⟩

/-- A value is not equal to a literal if both are primitives and not equal. -/
theorem holds_notEquals_iff {found : Option Value} (h : context.resolveAt field = .ok found) :
    (comparing field .notEquals literal).holds context = true ↔
      (found.getD .null).isPrimitive = true ∧ literal.isPrimitive = true ∧
        ¬ (comparing field .equals literal).holds context = true := by
  rw [holds_comparing, holds_equals_iff, h]
  simp [Operator.holds, and_assoc]

/-- A sequence contains a value if the value is in the sequence. -/
theorem holds_contains_iff {event place whole v : Value} {items : List Value}
    (hitems : whole.items? = some items) (hwhole : context.Leads field whole)
    (hv : event.Leads place v) :
    (comparing field .contains v).holds context = true ↔
      (comparing place .isIn whole).holds event = true := by
  have hcontains : whole.contains v = items.any (·.equals v) := by
    cases whole with
    | list | tuple =>
      cases hitems
      rfl
    | _ => cases hitems
  have hcomm : (fun item : Value => item.equals v) = v.equals :=
    funext fun _ => Value.equals_comm
  rw [holds_comparing_of_leads hwhole, holds_comparing_of_leads hv, Operator.holds,
    Operator.holds, Option.getD_some, Option.getD_some, hcontains, hitems, hcomm]

end Condition

/-- The operators that ask for equality agree with one another.

Equality is symmetric and transitive, reflexive on the primitives other than not-a-number, and never
between primitives of two classes.  A literal equals a path if it equals the value there, a missing
one being null.  A path is in a sequence if one of the items equals it; it is not equal to a literal
if both are primitives and the literal does not equal it.  A sequence contains a value if the value
is in the sequence. -/
theorem equality_operators_agree :
    (∀ a b : Value, a.equals b = b.equals a) ∧
    (∀ a b c : Value, a.equals b = true → b.equals c = true → a.equals c = true) ∧
    (∀ a : Value, a.equals a = true ↔ a.isPrimitive = true ∧ a ≠ .float .nan) ∧
    (∀ a b : Value, a.equals b = true →
      ∃ k, a.primitiveClass? = some k ∧ b.primitiveClass? = some k) ∧
    (∀ context field literal : Value,
      (Condition.comparing field .equals literal).holds context = true ↔
        ∃ found, context.resolveAt field = .ok found ∧ (found.getD .null).equals literal = true) ∧
    (∀ context field literal : Value,
      (Condition.comparing field .isIn literal).holds context = true ↔
        ∃ items, literal.items? = some items ∧
          ∃ v ∈ items, (Condition.comparing field .equals v).holds context = true) ∧
    (∀ (context field literal : Value) (found : Option Value),
      context.resolveAt field = .ok found →
        ((Condition.comparing field .notEquals literal).holds context = true ↔
          (found.getD .null).isPrimitive = true ∧ literal.isPrimitive = true ∧
            ¬ (Condition.comparing field .equals literal).holds context = true)) ∧
    (∀ (context event field place whole v : Value) (items : List Value),
      whole.items? = some items → context.Leads field whole → event.Leads place v →
        ((Condition.comparing field .contains v).holds context = true ↔
          (Condition.comparing place .isIn whole).holds event = true)) :=
  ⟨fun _ _ => Value.equals_comm, fun _ _ _ => Value.equals_trans, fun _ => Value.equals_self_iff,
    fun _ _ => Value.primitiveClass?_of_equals, fun _ _ _ => Condition.holds_equals_iff,
    fun _ _ _ => Condition.holds_isIn_iff, fun _ _ _ _ => Condition.holds_notEquals_iff,
    fun _ _ _ _ _ _ _ => Condition.holds_contains_iff⟩

/-- An event with a sequence of two zeros, one a double and one an integer, and a negative zero. -/
def zeroEvent : Value :=
  .mapping [("zeros", .tuple [.bool false, .float .zero, .int 0]),
    ("negative", .float (.finite true 0 0))]

/-- A negative zero equals both zeros, so these are equal; it is in the sequence that contains it, a
missing value is not, and is therefore not equal to it. -/
theorem equality_operators_agree_zeros :
    (Value.float .zero).equals (.int 0) = true ∧
    (Condition.comparing (.text "zeros") .contains (.float (.finite true 0 0))).holds zeroEvent =
      true ∧
    (Condition.comparing (.text "other") .notEquals (.int 0)).holds zeroEvent = true := by
  obtain ⟨-, htrans, -, -, -, -, hnot, hcontains⟩ := equality_operators_agree
  have hplace : zeroEvent.Leads (.text "zeros") (.tuple [.bool false, .float .zero, .int 0]) :=
    Value.resolveAt_eq_some_iff.1 rfl
  have hnegative : zeroEvent.Leads (.text "negative") (.float (.finite true 0 0)) :=
    Value.resolveAt_eq_some_iff.1 rfl
  refine ⟨htrans _ (.float (.finite true 0 0)) _ ?_ ?_, ?_, ?_⟩
  · decide +kernel
  · decide +kernel
  · refine (hcontains _ _ _ _ _ _ _ rfl hplace hnegative).2 ?_
    decide +kernel
  · refine (hnot _ _ _ none rfl).2 ⟨rfl, rfl, ?_⟩
    decide +kernel

/-! ## Outlines -/

namespace Value

/-- What is seen of an item: a primitive, or that it is none. -/
def glimpse (v : Value) : Value := if v.isPrimitive then v else .mapping []

/-- What an operator sees of a value. -/
def outline (v : Value) : Value :=
  match v.items? with
  | some items => .list (items.map glimpse)
  | none => v.glimpse

variable {v w : Value}

/-- What is no primitive equals nothing. -/
theorem equals_of_not_primitive (h : v.isPrimitive = false) : v.equals w = false := by
  cases hequals : v.equals w with
  | false => rfl
  | true =>
    obtain ⟨m, hm, -⟩ := equals_iff.1 hequals
    have hprimitive := (isSome_mark?_iff.1 (Option.isSome_iff_exists.2 ⟨m, hm⟩)).1
    rw [h] at hprimitive
    cases hprimitive

theorem equals_glimpse : v.glimpse.equals w = v.equals w := by
  rw [glimpse]
  cases h : v.isPrimitive with
  | true => rfl
  | false => rw [equals_of_not_primitive h, if_neg Bool.false_ne_true, equals_of_not_primitive rfl]

/-- A primitive is all that is seen of it. -/
theorem outline_of_primitive (h : v.isPrimitive = true) : v.outline = v := by
  cases v with
  | null | bool | int | float | text => rfl
  | _ => cases h

theorem isPrimitive_outline : v.outline.isPrimitive = v.isPrimitive := by
  cases v <;> rfl

theorem equals_outline : v.outline.equals w = v.equals w := by
  cases h : v.isPrimitive with
  | true => rw [outline_of_primitive h]
  | false =>
    rw [equals_of_not_primitive h, equals_of_not_primitive (isPrimitive_outline.trans h)]

theorem ordered?_outline : v.outline.ordered? = v.ordered? := by
  cases v <;> rfl

theorem contains_outline : v.outline.contains w = v.contains w := by
  cases v with
  | list xs | tuple xs =>
    show (xs.map glimpse).any (·.equals w) = xs.any (·.equals w)
    rw [List.any_map]
    exact congrArg xs.any (funext fun _ => equals_glimpse)
  | _ => rfl

end Value

/-- Operators see no more of a value than its outline. -/
theorem Operator.holds_outline (op : Operator) (v literal : Value) :
    op.holds (some v.outline) literal = op.holds (some v) literal := by
  cases op with
  | equals => exact Value.equals_outline
  | notEquals =>
    simp only [holds, Option.getD_some, Value.isPrimitive_outline, Value.equals_outline]
  | greaterThan | lessThan =>
    simp only [holds, Option.getD_some, Value.less, Value.ordered?_outline]
  | contains => exact Value.contains_outline
  | isIn =>
    have hequals : v.outline.equals = v.equals := funext fun _ => Value.equals_outline
    simp only [holds, Option.getD_some, hequals]

theorem Operator.holds_of_outline_eq {op : Operator} {v w literal : Value}
    (h : v.outline = w.outline) : op.holds (some v) literal = op.holds (some w) literal := by
  rw [← holds_outline op v, h, holds_outline]

end Automation
