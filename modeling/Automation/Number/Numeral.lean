import Automation.Number.Double

/-!
# Numerals

The texts of numbers as people write them.  `plainDouble?` reads a sign, digits with a point
somewhere, and an exponent, or one of the names of the numbers without digits.  `doubleNumeral?`
and `integerNumeral?` besides let single underscores stand between digits.  Only the digits of ASCII
count.
-/

namespace Automation

/-- A sign in front, and what follows it. -/
def signOf : List Char → Bool × List Char
  | '-' :: cs => (true, cs)
  | '+' :: cs => (false, cs)
  | cs => (false, cs)

/-- The number that digits spell. -/
def numeralValue (digits : List Char) : Nat := digits.foldl (fun n c => 10 * n + (c.toNat - 48)) 0

/-- An integer with a sign. -/
def signedValue (negative : Bool) (digits : List Char) : Int :=
  let n : Int := (numeralValue digits : Nat)
  if negative then -n else n

/-- The text without its underscores, if each stands between two digits; `after` is the character
before it. -/
def withoutUnderscores? : (after : Option Char) → List Char → Option (List Char)
  | _, [] => some []
  | after, '_' :: cs =>
    let digitBefore := after.any Char.isDigit
    let digitAfter := cs.head?.any Char.isDigit
    if digitBefore && digitAfter then withoutUnderscores? (some '_') cs else none
  | _, c :: cs => (withoutUnderscores? (some c) cs).map (c :: ·)

/-- The exponent of a numeral; a text without one has exponent zero. -/
def numeralExponent? : List Char → Option Int
  | [] => some 0
  | mark :: cs =>
    let (negative, digits) := signOf cs
    if (mark = 'e' ∨ mark = 'E') ∧ ¬digits.isEmpty ∧ digits.all Char.isDigit then
      some (signedValue negative digits)
    else none

/-- The double of an unsigned numeral of digits. -/
def unsignedDouble? (negative : Bool) (cs : List Char) : Option Double := do
  let whole := cs.takeWhile Char.isDigit
  let cs := cs.dropWhile Char.isDigit
  let (fraction, cs) := match cs with
    | '.' :: cs => (cs.takeWhile Char.isDigit, cs.dropWhile Char.isDigit)
    | cs => ([], cs)
  if whole.isEmpty && fraction.isEmpty then none
  let exponent ← numeralExponent? cs
  return Double.ofDecimal negative (numeralValue (whole ++ fraction))
    (exponent - (fraction.length : Nat))

/-- The double of a text without blanks and underscores. -/
def plainDouble? (cs : List Char) : Option Double :=
  let (negative, unsigned) := signOf cs
  let name := String.ofList (unsigned.map Char.toLower)
  if name = "inf" ∨ name = "infinity" then some (.infinite negative)
  else if name = "nan" then some .nan
  else unsignedDouble? negative unsigned

/-- The double of a text without blanks, with underscores between digits. -/
def doubleNumeral? (cs : List Char) : Option Double := do
  plainDouble? (← withoutUnderscores? none cs)

/-- The most digits that the text of an integer may have. -/
def integerDigitLimit : Nat := 4300

/-- The integer of a text without blanks, with underscores between digits. -/
def integerNumeral? (cs : List Char) : Option Int := do
  let (negative, unsigned) := signOf cs
  let digits ← withoutUnderscores? none unsigned
  if digits.isEmpty || !digits.all Char.isDigit || integerDigitLimit < digits.length then none
  return signedValue negative digits

end Automation
