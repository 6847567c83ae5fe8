import Automation.Path
import Automation.Vocabulary

/-!
# Conditions

A condition compares the value at a path of an event with a literal.  Comparisons are strict:
nothing is converted, only primitives are equal to anything, and a truth value is never a number.
A condition that cannot be evaluated does not hold: an unknown operator, a path that raises an
error, a number out of the range of the doubles in an ordering.

A missing value is compared like null.  `Value.equals` is the equality of primitives,
`Operator.holds` the meaning of an operator, `Condition.holds` that of a condition.
-/

namespace Automation

/-- A comparison of the value at a path with a literal.  A condition that came from outside may
hold anything as its field and operator; a stored rule holds a path and the name of an
operator. -/
structure Condition where
  /-- The path. -/
  field : Value
  /-- The name of the operator. -/
  operator : Value
  /-- The literal. -/
  value : Value
deriving Repr, Inhabited

/-- Equality of primitives of one class; all numbers are of one class and compare by their exact
values. -/
def Value.equals : Value → Value → Bool
  | .null, .null => true
  | .bool a, .bool b => a == b
  | .text a, .text b => a == b
  | a, b =>
    match a.number?, b.number? with
    | some x, some y => x.eq y
    | _, _ => false

/-- The number that takes part in an ordering. -/
def Value.ordered? (v : Value) : Option Number := v.number?.filter Number.isFinite

/-- Less than, among numbers within the range of the doubles. -/
def Value.less (a b : Value) : Bool :=
  match a.ordered?, b.ordered? with
  | some x, some y => x.lt y
  | _, _ => false

/-- Whether a value contains another: a text a part of itself, case apart, and a sequence an
equal item. -/
def Value.contains (whole part : Value) : Bool :=
  match whole with
  | .text s =>
    match part with
    | .text t => Text.occursIn (Text.lowerChars t.toList) (Text.lowerChars s.toList)
    | _ => false
  | _ =>
    match whole.items? with
    | some items => items.any (·.equals part)
    | none => false

/-- Whether an operator holds between what was found at a path and a literal. -/
def Operator.holds (op : Operator) (found : Option Value) (literal : Value) : Bool :=
  let actual := found.getD .null
  match op with
  | .equals => actual.equals literal
  | .notEquals => actual.isPrimitive && literal.isPrimitive && !actual.equals literal
  | .greaterThan => literal.less actual
  | .lessThan => actual.less literal
  | .contains => actual.contains literal
  | .isIn =>
    match literal.items? with
    | some items => items.any actual.equals
    | none => false

namespace Condition

/-- Whether a condition holds in an event. -/
def holds (c : Condition) (context : Value) : Bool :=
  match Operator.ofValue? c.operator, context.resolveAt c.field with
  | some op, .ok found => op.holds found c.value
  | _, _ => false

/-- Whether all conditions hold; without conditions every event matches. -/
def allHold (cs : List Condition) (context : Value) : Bool := cs.all (·.holds context)

/-- The condition as a mapping. -/
def toMapping (c : Condition) : Mapping :=
  [("field", c.field), ("operator", c.operator), ("value", c.value)]

/-- That mapping as a value. -/
def toValue (c : Condition) : Value := .mapping c.toMapping

/-- The condition that a mapping describes; an absent field or operator is an empty text. -/
def ofMapping (m : Mapping) : Condition :=
  { field := (Mapping.find? "field" m).getD (.text "")
    operator := (Mapping.find? "operator" m).getD (.text "")
    value := m.getD "value" }

end Condition

end Automation
