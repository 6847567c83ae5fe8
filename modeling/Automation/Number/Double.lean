/-!
# Double-precision numbers

A `Double` is a signed mantissa times a power of two, an infinity, or not a number.  Its exact
value is a rational (`Double.toRat?`), and every operation is the exact rational operation
followed by one rounding to the nearest double, halves to the even mantissa (`Double.ofRat`).
So nothing here depends on the machine's floating point, and comparisons of integers with
doubles are comparisons of rationals.

`Number` joins the integers, of any size, with the doubles: the two kinds of number an event
can carry.  `Number.lt` and `Number.eq` compare exact values.
-/

namespace Automation

/-- A double-precision number. -/
inductive Double where
  /-- The number `mantissa * 2 ^ exponent`, or its negative. -/
  | finite (negative : Bool) (mantissa : Nat) (exponent : Int)
  /-- Positive or negative infinity. -/
  | infinite (negative : Bool)
  /-- Not a number. -/
  | nan
deriving DecidableEq, Repr, Inhabited

/-- The rational `m * 2 ^ e`. -/
def scaled (m : Int) (e : Int) : Rat :=
  if 0 ≤ e then ((m * Nat.pow 2 e.toNat : Int) : Rat) else mkRat m (Nat.pow 2 (-e).toNat)

/-- The rational a quotient rounds to at the unit `1`, halves to the even neighbour. -/
def roundQuotient (num den : Nat) : Nat :=
  let q := num / den
  let r := num % den
  if 2 * r < den then q
  else if den < 2 * r then q + 1
  else if q % 2 = 0 then q else q + 1

namespace Double

/-- Positive zero. -/
def zero : Double := .finite false 0 0

/-- The least exponent of a mantissa. -/
def minExponent : Int := -1074

/-- The largest exponent of a mantissa of 53 bits. -/
def maxExponent : Int := 971

/-- The exact value of a finite double. -/
def toRat? : Double → Option Rat
  | .finite negative m e => some (scaled (if negative then -(m : Int) else m) e)
  | _ => none

/-- Neither infinite nor not-a-number. -/
def isFinite : Double → Bool
  | .finite .. => true
  | _ => false

/-- Either zero. -/
def isZero : Double → Bool
  | .finite _ m _ => m == 0
  | _ => false

/-- The sign bit; not-a-number has none. -/
def isNegative : Double → Bool
  | .finite negative .. => negative
  | .infinite negative => negative
  | .nan => false

/-- The sign turned round. -/
def neg : Double → Double
  | .finite negative m e => .finite (!negative) m e
  | .infinite negative => .infinite (!negative)
  | .nan => .nan

/-- The exponent at which the quotient `num / den` has a mantissa of 53 bits, within one. -/
def exponentGuess (num den : Nat) : Int :=
  max minExponent ((Nat.log2 num : Int) - (Nat.log2 den : Int) - 53)

/-- The quotient `num / den` in units of `2 ^ e`, rounded. -/
def mantissaAt (num den : Nat) (e : Int) : Nat :=
  if 0 ≤ e then roundQuotient num (den * Nat.pow 2 e.toNat)
  else roundQuotient (num * Nat.pow 2 (-e).toNat) den

/-- Whether the quotient needs more than 53 bits in units of `2 ^ e`. -/
def tooFine (num den : Nat) (e : Int) : Bool :=
  if 0 ≤ e then Nat.pow 2 53 * (den * Nat.pow 2 e.toNat) ≤ num
  else Nat.pow 2 53 * den ≤ num * Nat.pow 2 (-e).toNat

/-- The double nearest to `num / den`, halves to the even mantissa; beyond the largest finite
double it is an infinity. -/
def ofQuotient (negative : Bool) (num den : Nat) : Double :=
  if num = 0 then .finite negative 0 0
  else
    let e := exponentGuess num den
    let e := if tooFine num den e then e + 1 else e
    let m := mantissaAt num den e
    let (m, e) := if m = Nat.pow 2 53 then (Nat.pow 2 52, e + 1) else (m, e)
    if maxExponent < e then .infinite negative
    else if m = 0 then .finite negative 0 0
    else .finite negative m e

/-- The double nearest to a rational. -/
def ofRat (r : Rat) : Double := ofQuotient (r.num < 0) r.num.natAbs r.den

/-- The double nearest to an integer, infinite when the integer is out of range. -/
def ofInt (n : Int) : Double := ofQuotient (n < 0) n.natAbs 1

/-- The double nearest to the decimal `digits * 10 ^ exponent`.  Exponents far out of range are
settled without building the power of ten. -/
def ofDecimal (negative : Bool) (digits : Nat) (exponent : Int) : Double :=
  let length : Int := (Nat.log2 digits : Int) / 3 + 1
  if digits = 0 then .finite negative 0 0
  else if 400 < exponent then .infinite negative
  else if exponent + length < -400 then .finite negative 0 0
  else if 0 ≤ exponent then ofQuotient negative (digits * Nat.pow 10 exponent.toNat) 1
  else ofQuotient negative digits (Nat.pow 10 (-exponent).toNat)

/-! ## Arithmetic -/

/-- The sum.  Of two zeros only two negative ones have a negative sum. -/
def add : Double → Double → Double
  | .nan, _ => .nan
  | _, .nan => .nan
  | .infinite a, .infinite b => if a = b then .infinite a else .nan
  | .infinite a, _ => .infinite a
  | _, .infinite b => .infinite b
  | .finite a m e, .finite b n f =>
    let sum := scaled (if a then -(m : Int) else m) e + scaled (if b then -(n : Int) else n) f
    if sum.num = 0 then .finite (a && b) 0 0 else ofRat sum

/-- The difference. -/
def sub (x y : Double) : Double := x.add y.neg

/-- The product. -/
def mul : Double → Double → Double
  | .nan, _ => .nan
  | _, .nan => .nan
  | .infinite a, y => if y.isZero then .nan else .infinite (a != y.isNegative)
  | x, .infinite b => if x.isZero then .nan else .infinite (x.isNegative != b)
  | .finite a m e, .finite b n f =>
    let product := scaled m e * scaled n f
    ofQuotient (a != b) product.num.natAbs product.den

/-- The quotient by a positive natural number. -/
def divNat (x : Double) (n : Nat) : Double :=
  match x with
  | .finite negative m e =>
    let quotient := scaled m e / (n : Rat)
    ofQuotient negative quotient.num.natAbs quotient.den
  | other => other

/-- The nearest number with two decimal places, halves of a hundredth to the even hundredth.
The hundredths are taken from the exact value. -/
def roundHundredths : Double → Double
  | .finite negative m e =>
    let hundredths := scaled m e * 100
    ofQuotient negative (roundQuotient hundredths.num.natAbs hundredths.den) 100
  | other => other

end Double

/-! ## Numbers of either kind -/

/-- An integer of any size or a double. -/
inductive Number where
  /-- An integer. -/
  | int (n : Int)
  /-- A double. -/
  | double (x : Double)
deriving DecidableEq, Repr, Inhabited

namespace Number

/-- The least magnitude of an integer that no finite double is nearest to. -/
def integerLimit : Nat := Nat.pow 2 1024 - Nat.pow 2 970

/-- The exact value of a finite number. -/
def toRat? : Number → Option Rat
  | .int n => some (n : Rat)
  | .double x => x.toRat?

/-- Finite, and within the range of the doubles. -/
def isFinite : Number → Bool
  | .int n => n.natAbs < integerLimit
  | .double x => x.isFinite

/-- Position on the extended line: `-1` and `1` for the infinities, `0` for finite numbers. -/
def infinitySide : Number → Int
  | .double (.infinite true) => -1
  | .double (.infinite false) => 1
  | _ => 0

/-- Whether the number is not a number. -/
def isNan : Number → Bool
  | .double .nan => true
  | _ => false

/-- Equality of exact values; not-a-number equals nothing. -/
def eq (x y : Number) : Bool :=
  match x.toRat?, y.toRat? with
  | some a, some b => a == b
  | none, none => !x.isNan && !y.isNan && x.infinitySide == y.infinitySide
  | _, _ => false

/-- The order of exact values, with the infinities at its ends; not-a-number is in no order. -/
def lt (x y : Number) : Bool :=
  if x.isNan || y.isNan then false
  else
    match x.toRat?, y.toRat? with
    | some a, some b => decide (a < b)
    | _, _ => decide (x.infinitySide < y.infinitySide)

/-- The nearest double, or nothing when an integer is out of range. -/
def toDouble? : Number → Option Double
  | .int n => if n.natAbs < integerLimit then some (.ofInt n) else none
  | .double x => some x

end Number

end Automation
