import Automation.Number.Double

/-!
# Decimal digits of a double

`Decimal` is a whole number of units of a power of ten.  `shortestDecimal` finds the decimal of
fewest digits that reads back as a given double: on the grids of 1, 2, … 17 significant digits it
tests the two neighbours of the exact value, and the first grid with a neighbour inside the
interval of reals that round to the double wins.  Of two such neighbours it takes the nearer, of
two equally near the even one.  `significantDecimal` rounds to a given number of digits instead.

`Double.text` writes the shortest decimal in a style: positional notation while the decimal exponent
is at least `-4` and below `16`, always with a point or an exponent, exponents with a sign and two
digits; a brief style begins positional notation at `-5` and writes exponents without padding.
`Double.shortText` writes six significant digits without closing zeros.
-/

namespace Automation

/-- The number `digits * 10 ^ exponent`. -/
structure Decimal where
  /-- The digits, read as a whole number. -/
  digits : Nat
  /-- The power of ten they count. -/
  exponent : Int
deriving DecidableEq, Repr

namespace Decimal

/-- The digits as characters. -/
def chars (d : Decimal) : List Char := Nat.toDigits 10 d.digits

/-- The power of ten of the leading digit. -/
def magnitude (d : Decimal) : Int := d.exponent + d.chars.length - 1

/-- The digits without closing zeros, at least one digit. -/
def strippedChars (d : Decimal) : List Char :=
  match (d.chars.reverse.dropWhile (· == '0')).reverse with
  | [] => ['0']
  | cs => cs

end Decimal

/-- The positive number `num / den` counted in units of `10 ^ k`: a quotient of naturals. -/
def inUnitsOfTen (num den : Nat) (k : Int) : Nat × Nat :=
  if 0 ≤ k then (num, den * Nat.pow 10 k.toNat) else (num * Nat.pow 10 (-k).toNat, den)

/-- The power of ten of the leading digit of `num / den`, for quotients of at least
`10 ^ -330`. -/
def leadingPower (num den : Nat) : Int :=
  ((Nat.toDigits 10 (num * Nat.pow 10 330 / den)).length : Int) - 331

/-- The positive number `m * 2 ^ e` as a quotient of naturals. -/
def binaryQuotient (m : Nat) (e : Int) : Nat × Nat :=
  if 0 ≤ e then (m * Nat.pow 2 e.toNat, 1) else (m, Nat.pow 2 (-e).toNat)

/-- The neighbours of the double `m * 2 ^ e` on the grid of units `10 ^ k` that read back as the
double; the nearer one if both do, the even one if they are equally near. -/
def gridHit? (m : Nat) (e k : Int) : Option Nat :=
  let closed := m % 2 == 0
  let lowest := if m == Nat.pow 2 52 && Double.minExponent < e then 4 * m - 1 else 4 * m - 2
  let counted (n : Nat) : Nat × Nat :=
    let (num, den) := binaryQuotient n (e - 2)
    inUnitsOfTen num den k
  let (value, den) := counted (4 * m)
  let (low, _) := counted lowest
  let (high, _) := counted (4 * m + 2)
  let c := value / den
  let lowerFits := if closed then low ≤ c * den else low < c * den
  let upperFits := if closed then (c + 1) * den ≤ high else (c + 1) * den < high
  if lowerFits && upperFits then some (roundQuotient value den)
  else if lowerFits then some c
  else if upperFits then some (c + 1)
  else none

/-- The decimal of fewest digits that reads back as `m * 2 ^ e`, nearest to it among those. -/
def shortestDecimal (m : Nat) (e : Int) : Decimal :=
  let (num, den) := binaryQuotient m e
  let top := leadingPower num den
  let grids := (List.range 17).map fun (n : Nat) => top - (n : Int)
  match grids.findSome? fun k => (gridHit? m e k).map (⟨·, k⟩) with
  | some d => d
  | none => ⟨0, 0⟩

/-- The decimal of `count` significant digits nearest to `num / den`, halves to even. -/
def significantDecimal (count : Nat) (num den : Nat) : Decimal :=
  let k := leadingPower num den - (count - 1 : Nat)
  let (value, unit) := inUnitsOfTen num den k
  ⟨roundQuotient value unit, k⟩

/-! ## Texts -/

/-- Exponent part: a minus sign and the digits, and if `padded` also a plus sign and at least two
digits. -/
def exponentText (padded : Bool) (e : Int) : String :=
  let digits := toString e.natAbs
  let digits := if padded && digits.length < 2 then "0" ++ digits else digits
  "e" ++ (if e < 0 then "-" else if padded then "+" else "") ++ digits

/-- Digits in scientific notation: one digit, the others after a point. -/
def scientificText (padded : Bool) (digits : List Char) (magnitude : Int) : String :=
  match digits with
  | [] => ""
  | [d] => String.ofList [d] ++ exponentText padded magnitude
  | d :: ds => String.ofList (d :: '.' :: ds) ++ exponentText padded magnitude

/-- Digits in positional notation; `whole` closes a number without a fraction. -/
def positionalText (whole : String) (digits : List Char) (magnitude : Int) : String :=
  if magnitude < 0 then
    String.ofList ('0' :: '.' :: List.replicate (-magnitude - 1).toNat '0' ++ digits)
  else
    let before := magnitude.toNat + 1
    if digits.length ≤ before then
      String.ofList (digits ++ List.replicate (before - digits.length) '0') ++ whole
    else String.ofList (digits.take before ++ '.' :: digits.drop before)

namespace Double

/-- How a format writes doubles. -/
structure Style where
  /-- Positive infinity; a minus sign goes before it for the negative one. -/
  infinity : String
  /-- Not a number. -/
  nan : String
  /-- The least decimal exponent of positional notation. -/
  least : Int := -4
  /-- Whether exponents have a sign and two digits. -/
  padded : Bool := true

/-- Doubles in plain text. -/
def plainStyle : Style := ⟨"inf", "nan", -4, true⟩

/-- Doubles in JSON text. -/
def jsonStyle : Style := ⟨"Infinity", "NaN", -4, true⟩

/-- Doubles in JSON text with short exponents; there is none without digits. -/
def briefStyle : Style := ⟨"null", "null", -5, false⟩

/-- The sign in front of a text. -/
def signed (negative : Bool) (s : String) : String := if negative then "-" ++ s else s

/-- The shortest text that reads back as the double. -/
def text (style : Style) : Double → String
  | .nan => style.nan
  | .infinite negative => signed negative style.infinity
  | .finite negative m e =>
    if m = 0 then signed negative "0.0"
    else
      let d := shortestDecimal m e
      let power := d.magnitude
      signed negative <|
        if style.least ≤ power && power < 16 then positionalText ".0" d.strippedChars power
        else scientificText style.padded d.strippedChars power

/-- Six significant digits, without closing zeros and without a point after a whole number. -/
def shortText : Double → String
  | .nan => plainStyle.nan
  | .infinite negative => signed negative plainStyle.infinity
  | .finite negative m e =>
    if m = 0 then signed negative "0"
    else
      let (num, den) := binaryQuotient m e
      let d := significantDecimal 6 num den
      let power := d.magnitude
      signed negative <|
        if -4 ≤ power && power < 6 then positionalText "" d.strippedChars power
        else scientificText true d.strippedChars power

end Double

/-- Six significant digits of a number of either kind. -/
def Number.shortText : Number → String
  | .int n => (Double.ofInt n).shortText
  | .double x => x.shortText

end Automation
