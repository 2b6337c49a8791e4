/-!
# Days of the Gregorian calendar

The years run from 1 to 9999. A day carries the proof that it exists, so no impossible date can be
compared or counted from.

## Main definitions

* `isLeapYear`, `daysInMonth`, `isDay` — the calendar
* `Day`, `Day.make?` — the days, and the day of given numbers if there is one
* `Day.le` — the order of days
* `Day.ordinal`, `Day.ofOrdinal?` — days counted from the first day of year 1
* `Day.addYears?` — the same day of a later year
-/

namespace FieldRules

/-- Every fourth year is a leap year, centuries only if 400 divides them. -/
def isLeapYear (year : Nat) : Bool :=
  year % 4 = 0 && (year % 100 != 0 || year % 400 = 0)

/-- The number of days of a month. -/
def daysInMonth (year month : Nat) : Nat :=
  if month = 2 then (if isLeapYear year then 29 else 28)
  else if month = 4 || month = 6 || month = 9 || month = 11 then 30
  else 31

/-- The last year of the calendar. -/
def lastYear : Nat := 9999

/-- Whether the numbers name a day. -/
def isDay (year month day : Nat) : Bool :=
  1 ≤ year && year ≤ lastYear && 1 ≤ month && month ≤ 12 && 1 ≤ day && day ≤ daysInMonth year month

/-- A day of the calendar. -/
structure Day where
  year : Nat
  month : Nat
  day : Nat
  valid : isDay year month day = true
  deriving DecidableEq

namespace Day

/-- The day of the given numbers, if there is one. -/
def make? (year month day : Nat) : Option Day :=
  if h : isDay year month day = true then some ⟨year, month, day, h⟩ else none

theorem isSome_make?_iff (year month day : Nat) :
    (make? year month day).isSome ↔ isDay year month day = true := by
  unfold make?
  split <;> simp [*]

/-- Whether a day is the other one or before it. -/
def le (a b : Day) : Bool :=
  a.year < b.year || (a.year = b.year && (a.month < b.month ||
    (a.month = b.month && a.day ≤ b.day)))

/-- The number of days before the first of January. -/
def daysBeforeYear (year : Nat) : Nat :=
  let y := year - 1
  365 * y + y / 4 - y / 100 + y / 400

/-- The number of days of the year before the first of the month. -/
def daysBeforeMonth (year month : Nat) : Nat :=
  ((List.range (month - 1)).map fun m => daysInMonth year (m + 1)).foldl (· + ·) 0

/-- The number of the day, where the first of January of year 1 has number 1. -/
def ordinal (d : Day) : Nat :=
  daysBeforeYear d.year + daysBeforeMonth d.year d.month + d.day

/-- The day in the given year, month or a later month after so many days. -/
def inMonth? (year : Nat) : Nat → Nat → Nat → Option Day
  | 0, _, _ => none
  | fuel + 1, month, days =>
    if days ≤ daysInMonth year month then make? year month days
    else inMonth? year fuel (month + 1) (days - daysInMonth year month)

/-- The year of a day number: cycles of 400, 100, 4 years and single years, where the last century
and the last year of a cycle are a day longer. -/
def yearOfOrdinal (n : Nat) : Nat :=
  let d := n - 1
  let cycles := d / 146097
  let d := d % 146097
  let centuries := min 3 (d / 36524)
  let d := d - 36524 * centuries
  let fours := d / 1461
  let d := d % 1461
  400 * cycles + 100 * centuries + 4 * fours + min 3 (d / 365) + 1

/-- The day of the given number, if the calendar has it. -/
def ofOrdinal? (n : Nat) : Option Day :=
  if n = 0 then none
  else
    let year := yearOfOrdinal n
    inMonth? year 12 1 (n - daysBeforeYear year)

/-- The same day of a later year, or the 28th of the month where that day is missing; none if the
year is past the end of the calendar. -/
def addYears? (d : Day) (years : Nat) : Option Day :=
  (make? (d.year + years) d.month d.day).orElse fun _ => make? (d.year + years) d.month 28

end Day

end FieldRules
