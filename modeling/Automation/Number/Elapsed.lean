import Automation.Number.Double

/-!
# Durations and rates

A duration is the difference of two readings of a clock in seconds, given in milliseconds with two
decimal places.  A success rate is a percentage with two decimal places; where nothing has run it
is one hundred.
-/

namespace Automation

/-- One thousand. -/
def Double.thousand : Double := .ofInt 1000

/-- The milliseconds between two readings in seconds. -/
def Double.elapsed (start stop : Double) : Double :=
  ((stop.sub start).mul Double.thousand).roundHundredths

/-- The milliseconds between two readings in seconds; whole readings give a whole number.
Nothing if a reading is out of the range of the doubles. -/
def Number.elapsed? (start stop : Number) : Option Number :=
  match start, stop with
  | .int a, .int b => some (.int ((b - a) * 1000))
  | a, b => do
    let a ← a.toDouble?
    let b ← b.toDouble?
    return .double (a.elapsed b)

/-- A quotient in percent, with two decimal places. -/
def percentage (quotient : Double) : Double := (quotient.mul (.ofInt 100)).roundHundredths

/-- The percentage of successes among runs. -/
def successRate (successful total : Nat) : Double :=
  if total = 0 then .ofInt 100 else percentage (.ofQuotient false successful total)

/-- The quotient of two integers, the second one not zero; nothing if it is beyond the doubles. -/
def integerQuotient? (m n : Int) : Option Double :=
  match Double.ofQuotient (decide (m < 0) != decide (n < 0)) m.natAbs n.natAbs with
  | .infinite _ => none
  | x => some x

/-- The percentage of successes among runs where the numbers may be any integers; nothing if their
quotient is beyond the doubles. -/
def integerRate? (successful total : Int) : Option Double :=
  if total = 0 then some (.ofInt 100) else (integerQuotient? successful total).map percentage

/-- The sum of two numbers; nothing if an integer that is added to a double is beyond the
doubles. -/
def Number.add? (x y : Number) : Option Number :=
  match x, y with
  | .int m, .int n => some (.int (m + n))
  | x, y => do return .double ((← x.toDouble?).add (← y.toDouble?))

/-- The quotient of a number by a positive natural number; nothing if it is beyond the doubles. -/
def Number.divNat? (x : Number) (n : Nat) : Option Double :=
  match x with
  | .int m => integerQuotient? m n
  | .double x => some (x.divNat n)

/-- The sum of durations from left to right, divided by their number, with two decimal places;
nothing if an integer is beyond the doubles. -/
def averageDuration? (durations : List Number) : Option Double :=
  if durations.isEmpty then some .zero
  else do
    let sum ← durations.foldlM Number.add? (.int 0)
    return (← sum.divNat? durations.length).roundHundredths

end Automation
