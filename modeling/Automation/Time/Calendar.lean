/-!
# The calendar

Dates of the proleptic Gregorian calendar as days counted from the first of January of the year
one.  `dayNumber` and `civilDate` pass between the two; years run from 1 to 9999.
-/

namespace Automation.Time

/-- A date of the calendar. -/
structure Date where
  /-- The year. -/
  year : Nat
  /-- The month, from 1. -/
  month : Nat
  /-- The day of the month, from 1. -/
  day : Nat
deriving DecidableEq, Repr

/-- A year with a 29th of February. -/
def isLeap (year : Nat) : Bool := year % 4 == 0 && (year % 100 != 0 || year % 400 == 0)

/-- The number of days of a month. -/
def daysInMonth (year month : Nat) : Nat :=
  if month == 2 then (if isLeap year then 29 else 28)
  else if month == 4 || month == 6 || month == 9 || month == 11 then 30
  else 31

/-- The days of the years before a year. -/
def daysBeforeYear (year : Nat) : Nat :=
  let y := year - 1
  365 * y + y / 4 - y / 100 + y / 400

/-- The days of a year before a month. -/
def daysBeforeMonth (year month : Nat) : Nat :=
  (List.range (month - 1)).foldl (fun days i => days + daysInMonth year (i + 1)) 0

/-- A date that exists, in the years 1 to 9999. -/
def Date.valid (d : Date) : Bool :=
  1 ≤ d.year && d.year ≤ 9999 && 1 ≤ d.month && d.month ≤ 12 && 1 ≤ d.day
    && d.day ≤ daysInMonth d.year d.month

/-- The days from the first of January of the year one to a date. -/
def dayNumber (d : Date) : Nat :=
  daysBeforeYear d.year + daysBeforeMonth d.year d.month + (d.day - 1)

/-- The month and the day of the `n`-th day of a year, counted from zero. -/
def monthDay (year n : Nat) : Nat × Nat :=
  let month := ((List.range 12).filter fun i => daysBeforeMonth year (i + 1) ≤ n).length
  (month, n - daysBeforeMonth year month + 1)

/-- The date a number of days after the first of January of the year one. -/
def civilDate (n : Nat) : Date :=
  let guess := n / 366 + 1
  let later := (List.range 40).filter fun i => daysBeforeYear (guess + i + 1) ≤ n
  let year := guess + later.length
  let (month, day) := monthDay year (n - daysBeforeYear year)
  ⟨year, month, day⟩

/-- The number of weeks of a year: one that starts on a Thursday, or on a Wednesday when it is a
leap year, has one more than the others. -/
def weeksInYear (year : Nat) : Nat :=
  let first := dayNumber ⟨year, 1, 1⟩ % 7
  if first == 3 || (first == 2 && isLeap year) then 53 else 52

/-- The date of a day of a week, Monday being the first, in a year's numbering of weeks. -/
def weekDate (year week day : Nat) : Nat :=
  let fourth := dayNumber ⟨year, 1, 4⟩
  (fourth - fourth % 7 + 7 * (week - 1)) + (day - 1)

end Automation.Time
