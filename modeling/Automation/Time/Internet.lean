import Automation.Number.Numeral
import Automation.Text.Split
import Automation.Time.Timestamp

/-!
# Internet timestamps

Timestamps as callers over the internet write them: a full date and a time of day, at least to the
minute, with or without an offset; a full date alone, which is its midnight; or a number, which
counts seconds, or milliseconds where it is large, and is in UTC.  `Timestamp.readInternet` reads
all of them.  What is well written may still lie in the year zero, which the calendar does not
have.
-/

namespace Automation

/-- Why a text is no timestamp. -/
inductive InternetTimeError where
  /-- It is not written as one, or lies beyond all years; the reason is why it is no date. -/
  | malformed (reason : String)
  /-- It lies in the year zero. -/
  | yearZero
deriving DecidableEq, Repr

namespace Timestamp

/-- The days of four hundred years. -/
def daysOfCycle : Int := 146097

/-- A full date with hyphens, as a number of days, and what follows it.  Those of the year zero are
negative. -/
def fullDate? (cs : List Char) : Option (Int × List Char) := do
  let (year, cs) ← digits? 4 cs
  let cs ← match cs with | '-' :: rest => some rest | _ => none
  let (month, cs) ← digits? 2 cs
  let cs ← match cs with | '-' :: rest => some rest | _ => none
  let (day, cs) ← digits? 2 cs
  if 1 ≤ month && month ≤ 12 && 1 ≤ day && day ≤ Time.daysInMonth year month then
    some ((Time.dayNumber ⟨year + 400, month, day⟩ : Nat) - daysOfCycle, cs)
  else none

/-- The fraction of a second in front of a text, in microseconds, and what follows it. -/
def leadingFraction? (cs : List Char) : Option (Nat × List Char) :=
  match cs with
  | '.' :: rest | ',' :: rest =>
    let ds := rest.takeWhile Char.isDigit
    if ds.isEmpty then none else some (fractionMicroseconds ds, rest.drop ds.length)
  | cs => some (0, cs)

/-- The offset that ends a text: none, the letter for UTC, or hours and minutes. -/
def closingOffset? (cs : List Char) : Option (Option Int) :=
  let shift (ahead : Bool) (cs : List Char) : Option (Option Int) := do
    let (hours, cs) ← digits? 2 cs
    let (minutes, cs) ← digits? 2 (match cs with | ':' :: rest => rest | cs => cs)
    if cs.isEmpty && minutes ≤ 59 && hours ≤ 23 then
      let n : Int := ((hours * 60 + minutes : Nat) : Int) * 60 * second
      some (some (if ahead then n else -n))
    else none
  match cs with
  | [] => some none
  | ['Z'] | ['z'] => some (some 0)
  | '+' :: rest => shift true rest
  | '-' :: rest => shift false rest
  | c :: rest => if c.toNat = 0x2212 then shift false rest else none

/-- A time of day, at least to the minute, with its offset. -/
def internetTime? (cs : List Char) : Option (Nat × Option Int) := do
  let (hours, cs) ← digits? 2 cs
  let cs ← match cs with | ':' :: rest => some rest | _ => none
  let (minutes, cs) ← digits? 2 cs
  let ((seconds, fraction), cs) ←
    match cs with
    | ':' :: rest => do
      let (seconds, cs) ← digits? 2 rest
      let (fraction, cs) ← leadingFraction? cs
      some ((seconds, fraction), cs)
    | cs => some ((0, 0), cs)
  if hours ≤ 23 && minutes ≤ 59 && seconds ≤ 59 then
    return (ClockParts.total ⟨hours, minutes, seconds, fraction⟩, ← closingOffset? cs)
  else none

/-- A date with a time of day. -/
def internetDateTime? (cs : List Char) : Option Timestamp := do
  let (days, cs) ← fullDate? cs
  let midnight := days * day
  match cs with
  | [] => some ⟨midnight, none⟩
  | c :: cs =>
    if c = 'T' ∨ c = 't' ∨ c = ' ' ∨ c = '_' then
      let (n, offset) ← internetTime? cs
      some ⟨midnight + n, offset⟩
    else none

/-- The largest number that counts seconds; larger ones count milliseconds. -/
def secondsLimit : Nat := 20000000000

/-- The start of the year 1970. -/
def unixStart : Int := 719162 * day

/-- The instant that lies some microseconds after the start of 1970. -/
def ofUnix (passed : Int) : Timestamp := ⟨unixStart + passed, some 0⟩

/-- The microseconds that an integer stands for. -/
def countedByInteger (n : Int) : Int :=
  if secondsLimit < n.natAbs then n * 1000 else n * 1000000

/-- The nearest integer, halves away from zero. -/
def nearestInteger (r : Rat) : Int := if r < 0 then -(-r + 1 / 2).floor else (r + 1 / 2).floor

/-- The microseconds that a finite double stands for. -/
def countedByDouble? (x : Double) : Option Int := do
  let r ← x.toRat?
  let large := (secondsLimit : Rat) < (if r < 0 then -r else r)
  let seconds ← (if large then x.divNat 1000 else x).toRat?
  let whole := seconds.floor
  let fraction ← ((Double.ofRat (seconds - (whole : Rat))).mul (.ofInt 1000000)).toRat?
  return whole * 1000000 + nearestInteger fraction

/-- The timestamp that a number stands for. -/
def internetCount? (cs : List Char) : Option Timestamp :=
  let (negative, digits) := signOf cs
  if !digits.isEmpty && digits.all Char.isDigit then
    some (ofUnix (countedByInteger (signedValue negative digits)))
  else ((plainDouble? cs).bind countedByDouble?).map ofUnix

/-- Why a text is no full date. -/
def dateReason (cs : List Char) : String :=
  let digits (start count : Nat) : Bool := ((cs.drop start).take count).all Char.isDigit
  let hyphen (place : Nat) : Bool := cs[place]? == some '-'
  let month := ((digits? 2 (cs.drop 5)).map (·.1)).getD 0
  if (cs.flatMap String.utf8EncodeChar).length < 10 then "input is too short"
  else if !digits 0 4 then "invalid character in year"
  else if !hyphen 4 then "invalid date separator, expected `-`"
  else if !digits 5 2 then "invalid character in month"
  else if !hyphen 7 then "invalid date separator, expected `-`"
  else if !digits 8 2 then "invalid character in day"
  else if month < 1 || 12 < month then "month value is outside expected range of 1-12"
  else if (fullDate? cs).isNone then "day value is outside expected range"
  else "unexpected extra characters at the end of the input"

/-- The timestamp of an internet text. -/
def readInternet (s : String) : Except InternetTimeError Timestamp :=
  match (internetDateTime? s.toList).or (internetCount? s.toList) with
  | none => .error (.malformed (dateReason s.toList))
  | some t =>
    if t.clock < -366 * day || limit ≤ t.clock then .error (.malformed (dateReason s.toList))
    else if t.clock < 0 then .error .yearZero
    else .ok t

end Timestamp

end Automation
