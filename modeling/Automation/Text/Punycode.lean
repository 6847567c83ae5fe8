/-!
# Punycode

A label of characters beyond ASCII written with letters, digits and hyphens.  The characters of
ASCII stand in front; behind the last hyphen every other character is told by a number that says how
far it is from the one before, in the order of code points, and where it stands.  Numbers have
digits to the base 36 with thresholds that adapt to the numbers before (`adapt`).

`encode` writes and `decode?` reads.
-/

namespace Automation.Text.Punycode

/-! ## Digits -/

/-- The digit of a value below 36. -/
def digit (d : Nat) : Char := if d < 26 then Char.ofNat (97 + d) else Char.ofNat (22 + d)

/-- The value of a digit in either case. -/
def digitValue? (c : Char) : Option Nat :=
  let n := c.toNat
  if 97 ≤ n && n ≤ 122 then some (n - 97)
  else if 65 ≤ n && n ≤ 90 then some (n - 65)
  else if 48 ≤ n && n ≤ 57 then some (n - 22)
  else none

/-- The least digit at a place that does not end a number, `place` being 36 for the first, 72 for
the second and so on. -/
def threshold (place bias : Nat) : Nat :=
  if place ≤ bias then 1 else if bias + 26 ≤ place then 26 else place - bias

/-- A threshold is positive, so a digit that does not end a number leaves less to write. -/
theorem threshold_pos (place bias : Nat) : 1 ≤ threshold place bias := by
  unfold threshold
  repeat' split
  all_goals omega

/-- The bias that a number leaves to the next, reduced until it is small. -/
def reduced (delta bias : Nat) : Nat :=
  if 455 < delta then reduced (delta / 35) (bias + 36) else bias + 36 * delta / (delta + 38)
termination_by delta
decreasing_by exact Nat.div_lt_self (by omega) (by omega)

/-- The bias after a number, given how many characters there are with the one it tells. -/
def adapt (delta count : Nat) (isFirst : Bool) : Nat :=
  let delta := if isFirst then delta / 700 else delta / 2
  reduced (delta + delta / count) 0

/-! ## Writing -/

/-- The digits of a number from a place on. -/
def numberDigits (bias place n : Nat) : List Char :=
  let t := threshold place bias
  if n < t then [digit n]
  else digit (t + (n - t) % (36 - t)) :: numberDigits bias (place + 36) ((n - t) / (36 - t))
termination_by n
decreasing_by
  have h := threshold_pos place bias
  exact Nat.lt_of_le_of_lt (Nat.div_le_self _ _) (by omega)

/-- A label that is being written. -/
structure Writing where
  /-- The digits so far. -/
  digits : List Char
  /-- The number that the next character is told by, so far. -/
  delta : Nat
  /-- The bias. -/
  bias : Nat
  /-- The number of characters that are written. -/
  count : Nat

/-- The label after one of its characters is passed in the search for the code point `n`. -/
def Writing.pass (basic n : Nat) (w : Writing) (c : Char) : Writing :=
  if c.toNat < n then { w with delta := w.delta + 1 }
  else if c.toNat = n then
    { digits := w.digits ++ numberDigits w.bias 36 w.delta
      delta := 0
      bias := adapt w.delta (w.count + 1) (w.count == basic)
      count := w.count + 1 }
  else w

/-- The label after all its characters with the code points `ns` are written; `least` is the least
code point that may come next. -/
def Writing.passAll (label : List Char) (basic : Nat) : (ns : List Nat) → (least : Nat) → Writing →
    Writing
  | [], _, w => w
  | n :: ns, least, w =>
    let w := { w with delta := w.delta + (n - least) * (w.count + 1) }
    let w := label.foldl (Writing.pass basic n) w
    passAll label basic ns (n + 1) { w with delta := w.delta + 1 }

/-- A number put into a sorted list without repetition. -/
def insertNumber (n : Nat) : List Nat → List Nat
  | [] => [n]
  | m :: rest =>
    if n < m then n :: m :: rest else if n = m then m :: rest else m :: insertNumber n rest

/-- The characters of ASCII in a label. -/
def basicChars (label : List Char) : List Char := label.filter fun c => c.toNat < 0x80

/-- The code points beyond ASCII in a label, sorted, each once. -/
def furtherPoints (label : List Char) : List Nat :=
  ((label.filter fun c => 0x80 ≤ c.toNat).map Char.toNat).foldr insertNumber []

/-- The written form of a label. -/
def encode (label : List Char) : List Char :=
  let basic := basicChars label
  let w := Writing.passAll label basic.length (furtherPoints label) 0x80 ⟨[], 0, 72, basic.length⟩
  basic ++ (if basic.isEmpty then [] else ['-']) ++ w.digits

/-! ## Reading -/

/-- The number in front of a text, added to `n`, and what follows it. -/
def readNumber? (bias : Nat) : List Char → (place weight n : Nat) → Option (Nat × List Char)
  | [], _, _, _ => none
  | c :: cs, place, weight, n => do
    let d ← digitValue? c
    let t := threshold place bias
    if d < t then some (n + d * weight, cs)
    else readNumber? bias cs (place + 36) (weight * (36 - t)) (n + d * weight)

/-- The label whose further characters are told by a text, `taken` being those that are there.  One
number is read for every unit of fuel. -/
def readPoints? : (fuel : Nat) → (bias point place : Nat) → (taken : List Char) → List Char →
    Option (List Char)
  | _, _, _, _, taken, [] => some taken
  | 0, _, _, _, _, _ => none
  | fuel + 1, bias, point, place, taken, cs => do
    let (n, rest) ← readNumber? bias cs 36 1 place
    let count := taken.length + 1
    let point := point + n / count
    if point < 0xD800 || (0xDFFF < point && point < 0x110000) then
      readPoints? fuel (adapt (n - place) count (place == 0)) point (n % count + 1)
        (taken.take (n % count) ++ Char.ofNat point :: taken.drop (n % count)) rest
    else none

/-- The label of a written form. -/
def decode? (cs : List Char) : Option (List Char) :=
  let digits := (cs.reverse.takeWhile (· != '-')).reverse
  let basic := (cs.take (cs.length - digits.length)).dropLast
  readPoints? digits.length 72 0x80 0 basic digits

example : encode "münchen".toList = "mnchen-3ya".toList := by decide +kernel
example : decode? "mnchen-3ya".toList = some "münchen".toList := by decide +kernel

end Automation.Text.Punycode
