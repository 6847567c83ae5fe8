import Automation.Number.Double
import Automation.Text.Split
import Automation.Time.Calendar

/-!
# Timestamps

A timestamp is a date with a time of day, to the microsecond.  It may carry its offset from UTC
or leave it open; one that leaves it open is called naive and means UTC where it has to be read as
an instant (`Timestamp.toUtc?`).  Two timestamps can be ordered only if both carry an offset or
neither does.

`Timestamp.ofIso?` reads the ISO 8601 forms, `Timestamp.iso` writes the usual one.
-/

namespace Automation

/-- A date with a time of day and perhaps an offset from UTC. -/
structure Timestamp where
  /-- Microseconds on the local clock since the year one began. -/
  clock : Int
  /-- Microseconds that the local clock is ahead of UTC. -/
  offset : Option Int
deriving DecidableEq, Repr, Inhabited

namespace Timestamp

/-- Microseconds in a second. -/
def second : Int := 1000000

/-- Microseconds in a day. -/
def day : Int := 86400 * second

/-- The end of the year 9999. -/
def limit : Int := 3652059 * day

/-- Within the years 1 to 9999. -/
def inRange (clock : Int) : Bool := 0 ≤ clock && clock < limit

/-- Without an offset. -/
def isNaive (t : Timestamp) : Bool := t.offset.isNone

/-- The clock in UTC, a naive timestamp being in UTC already. -/
def utcClock (t : Timestamp) : Int := t.clock - t.offset.getD 0

/-- The same instant, told in UTC. -/
def toUtc (t : Timestamp) : Timestamp := ⟨t.utcClock, some 0⟩

/-- The timestamp in UTC; nothing if that lies outside the years 1 to 9999. -/
def toUtc? (t : Timestamp) : Option Timestamp :=
  if inRange t.utcClock then some t.toUtc else none

/-- Whether two timestamps can be ordered. -/
def comparable (s t : Timestamp) : Bool := s.isNaive == t.isNaive

/-- Earlier, of two timestamps that can be ordered. -/
def before (s t : Timestamp) : Bool := s.utcClock < t.utcClock

/-- The timestamp a number of microseconds later, if it lies within the years 1 to 9999. -/
def later? (t : Timestamp) (microseconds : Int) : Option Timestamp :=
  if inRange (t.clock + microseconds) then some { t with clock := t.clock + microseconds } else none

/-! ## Writing -/

/-- A number in at least `width` digits. -/
def padded (width n : Nat) : String :=
  let digits := toString n
  String.ofList (List.replicate (width - digits.length) '0') ++ digits

/-- Hours, minutes and seconds, with the microseconds if there are any. -/
def timeText (microseconds : Nat) : String :=
  let seconds := microseconds / 1000000
  let rest := microseconds % 1000000
  padded 2 (seconds / 3600) ++ ":" ++ padded 2 (seconds / 60 % 60) ++ ":" ++ padded 2 (seconds % 60)
    ++ (if rest = 0 then "" else "." ++ padded 6 rest)

/-- An offset: a sign, hours and minutes, and what there is beyond the minutes. -/
def offsetText (offset : Int) : String :=
  let n := offset.natAbs
  let sign := if offset < 0 then "-" else "+"
  if n % 60000000 = 0 then
    sign ++ padded 2 (n / 3600000000) ++ ":" ++ padded 2 (n / 60000000 % 60)
  else sign ++ timeText n

/-- Date and time of day, without the offset. -/
def clockText (t : Timestamp) : String :=
  let n := t.clock.toNat
  let d := Time.civilDate (n / day.toNat)
  padded 4 d.year ++ "-" ++ padded 2 d.month ++ "-" ++ padded 2 d.day ++ "T"
    ++ timeText (n % day.toNat)

/-- The ISO 8601 text of a timestamp. -/
def iso (t : Timestamp) : String :=
  t.clockText ++ (match t.offset with | some o => offsetText o | none => "")

/-- The ISO 8601 text with the letter `Z` for UTC. -/
def isoZulu (t : Timestamp) : String :=
  if t.offset = some 0 then t.clockText ++ "Z" else t.iso

/-! ## Reading -/

/-- The number that exactly `width` digits of ASCII spell, with what follows them. -/
def digits? (width : Nat) (cs : List Char) : Option (Nat × List Char) :=
  let front := cs.take width
  if front.length = width && front.all Char.isDigit then
    some (front.foldl (fun n c => 10 * n + (c.toNat - 48)) 0, cs.drop width)
  else none

/-- The character at a place, the null character beyond the end. -/
def charAt (cs : List Char) (i : Nat) : Char := cs[i]?.getD (Char.ofNat 0)

/-- Where the date in front of an ISO 8601 text ends.  A date by week may or may not name the day,
and the character after a date may be any: where both readings are possible, digits that follow
decide, since those of a time come in pairs. -/
def dateLength (cs : List Char) : Nat :=
  if cs.length = 7 then 7
  else if charAt cs 4 = '-' then
    if charAt cs 5 ≠ 'W' then 10
    else if charAt cs 8 = '-' && !(charAt cs 10).isDigit then 10
    else 8
  else if charAt cs 4 = 'W' then
    let run := ((cs.drop 7).takeWhile Char.isDigit).length
    if run < 2 then 7 + run else if run % 2 = 1 then 7 else 8
  else 8

/-- A date that takes a whole text, written with hyphens or without, by month or by week. -/
def date? (cs : List Char) : Option Nat := do
  let (year, cs) ← digits? 4 cs
  let (hyphens, cs) := match cs with
    | '-' :: rest => (true, rest)
    | rest => (false, rest)
  match cs with
  | 'W' :: cs =>
    let (week, cs) ← digits? 2 cs
    let (weekday, cs) ←
      match cs with
      | [] => some (1, [])
      | '-' :: rest => if hyphens then digits? 1 rest else none
      | cs => if hyphens then none else digits? 1 cs
    if cs.isEmpty && 1 ≤ year && 1 ≤ week && week ≤ Time.weeksInYear year && 1 ≤ weekday
        && weekday ≤ 7 then
      some (Time.weekDate year week weekday)
    else none
  | cs =>
    let (month, cs) ← digits? 2 cs
    let cs ← if hyphens then (match cs with | '-' :: rest => some rest | _ => none) else some cs
    let (day, cs) ← digits? 2 cs
    if cs.isEmpty && (Time.Date.mk year month day).valid then
      some (Time.dayNumber ⟨year, month, day⟩)
    else none

/-- The microseconds of a fraction of a second; digits beyond the sixth are dropped. -/
def fractionMicroseconds (ds : List Char) : Nat :=
  ((ds ++ List.replicate 6 '0').take 6).foldl (fun n c => 10 * n + (c.toNat - 48)) 0

/-- A time of day or an offset as it is written: the parts given are not checked. -/
structure ClockParts where
  /-- Hours. -/
  hours : Nat
  /-- Minutes, zero if left out. -/
  minutes : Nat
  /-- Seconds, zero if left out. -/
  seconds : Nat
  /-- Microseconds, zero if left out. -/
  fraction : Nat

/-- Whole seconds. -/
def ClockParts.wholeSeconds (p : ClockParts) : Nat := (p.hours * 60 + p.minutes) * 60 + p.seconds

/-- Microseconds in all. -/
def ClockParts.total (p : ClockParts) : Nat := p.wholeSeconds * 1000000 + p.fraction

/-- Whether something is left of a text that ends with its first null character. -/
def isUnread (cs : List Char) : Bool := charAt cs 0 != Char.ofNat 0

/-- A fraction at the start of a text: up to six digits that count and any number that do not.
Besides, whether something is left after them. -/
def fraction? (cs : List Char) : Option (Nat × Bool) :=
  if (cs.take 6).all Char.isDigit then
    some (fractionMicroseconds (cs.take 6), isUnread ((cs.drop 6).dropWhile Char.isDigit))
  else none

/-- The parts of a clock in a text, `count` at most after those `taken`, and then a fraction.  Parts
have colons between them, or nothing; `colons` says which, and the first part decides.  Besides,
whether something is left that belongs to no part: one character of ASCII may be. -/
def clockParts? : (count : Nat) → (colons : Bool) → (taken : List Nat) → List Char →
    Option (List Nat × Nat × Bool)
  | 0, _, taken, cs => (fraction? cs).map fun (fraction, left) => (taken, fraction, left)
  | count + 1, colons, taken, cs => do
    let (n, cs) ← digits? 2 cs
    let taken := taken ++ [n]
    match cs with
    | [] => some (taken, 0, false)
    | [c] => if c.toNat < 0x80 then some (taken, 0, isUnread [c]) else none
    | c :: rest =>
      let colons := if taken.length = 1 then c == ':' else colons
      if colons && c = ':' then clockParts? count colons taken rest
      else if c = '.' || c = ',' then
        (fraction? rest).map fun (fraction, left) => (taken, fraction, left)
      else if colons then none
      else clockParts? count colons taken (c :: rest)

/-- A clock in a text, and whether something is left of the text. -/
def clock? (cs : List Char) : Option (ClockParts × Bool) := do
  let (parts, fraction, left) ← clockParts? 3 false [] cs
  return (⟨parts.getD 0 0, parts.getD 1 0, parts.getD 2 0, fraction⟩, left)

/-- An offset after its sign, below a day.  One without whole seconds is none. -/
def offset? (negative : Bool) (cs : List Char) : Option Int := do
  let (p, left) ← clock? cs
  let n : Int := (p.total : Nat)
  if left || day ≤ n then none
  else if p.wholeSeconds = 0 then some 0
  else some (if negative then -n else n)

/-- Where the offset of a time starts, if it has one. -/
def isOffsetMark (c : Char) : Bool := c == '+' || c == '-' || c == 'Z'

/-- The offset that ends a text; the letter `Z` is that of UTC. -/
def markedOffset? : List Char → Option Int
  | '+' :: rest => offset? false rest
  | '-' :: rest => offset? true rest
  | cs => if isUnread (cs.drop 1) then none else some 0

/-- A time of day with an offset, if it has one.  In front of an offset a time may break off after
one character or after a fraction. -/
def time? (cs : List Char) : Option (Nat × Option Int) := do
  let front := cs.takeWhile fun c => !isOffsetMark c
  let back := cs.drop front.length
  let (p, left) ← clock? front
  let offset ← if back.isEmpty then (if left then none else some none) else
    (markedOffset? back).map some
  if p.hours ≤ 23 && p.minutes ≤ 59 && p.seconds ≤ 59 then return (p.total, offset) else none

/-- The timestamp of an ISO 8601 text: a date, and perhaps a time of day after one character, and
perhaps an offset. -/
def ofIso? (s : String) : Option Timestamp := do
  let cs := s.toList
  let days ← date? (cs.take (dateLength cs))
  let midnight : Int := (days : Int) * day
  let (n, offset) ←
    match cs.drop (dateLength cs) with
    | [] => some (0, none)
    | _ :: cs => time? cs
  if inRange midnight then some ⟨midnight + n, offset⟩ else none

end Timestamp

/-- A span of seconds in microseconds, halves of a microsecond to the even one; nothing for a
span that is not finite. -/
def secondsSpan? : Number → Option Int
  | .int n => some (n * Timestamp.second)
  | .double x =>
    match x with
    | .finite negative m e =>
      let whole := (scaled m e).floor
      let fraction := (Double.ofRat (scaled m e - (whole : Rat))).mul (.ofInt 1000000)
      let rounded := match fraction.toRat? with
        | some r => roundQuotient r.num.natAbs r.den
        | none => 0
      let span := whole * Timestamp.second + (rounded : Nat)
      some (if negative then -span else span)
    | _ => none

end Automation
