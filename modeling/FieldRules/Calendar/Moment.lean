import FieldRules.Calendar.Day

/-!
# Moments: a day and a time of day

A moment may say how far its clock is ahead of universal time. Two moments that say so are equal if
they are the same instant; a moment that does not say so never equals one that does.

## Main definitions

* `Clock`, `Clock.isTime` — a time of day to the microsecond
* `Moment`, `Moment.same` — moments and their equality
* `Moment.text`, `Moment.construction` — the standard notation and the written-out construction
-/

namespace FieldRules

/-- A time of day. -/
structure Clock where
  hour : Nat
  minute : Nat
  second : Nat
  microsecond : Nat
  deriving DecidableEq

/-- Whether the numbers are a time of day. There is no leap second. -/
def Clock.isTime (c : Clock) : Bool :=
  c.hour < 24 && c.minute < 60 && c.second < 60 && c.microsecond < 1000000

/-- The microseconds since midnight. -/
def Clock.microseconds (c : Clock) : Nat :=
  ((c.hour * 60 + c.minute) * 60 + c.second) * 1000000 + c.microsecond

/-- The time of day after so many microseconds, less than a day. -/
def Clock.ofMicroseconds (n : Nat) : Clock :=
  ⟨n / 3600000000, n / 60000000 % 60, n / 1000000 % 60, n % 1000000⟩

/-- A day and a time of day, with the microseconds that the clock is ahead of universal time if they
are known. -/
structure Moment where
  day : Day
  clock : Clock
  offset : Option Int
  deriving DecidableEq

/-- The microseconds of a day. -/
def microsecondsPerDay : Nat := 86400000000

namespace Moment

/-- The microseconds from a fixed instant to this moment, on its own clock. -/
def elapsed (m : Moment) : Int :=
  m.day.ordinal * microsecondsPerDay + m.clock.microseconds

/-- Whether two moments are equal. -/
def same (a b : Moment) : Bool :=
  match a.offset, b.offset with
  | none, none => a.elapsed = b.elapsed
  | some p, some q => a.elapsed - p = b.elapsed - q
  | _, _ => false

/-! ## Text -/

/-- A number with zeros before it up to the given width. -/
def padded (width n : Nat) : String :=
  let ds := Nat.toDigits 10 n
  String.ofList (List.replicate (width - ds.length) '0' ++ ds)

/-- The date in standard notation. -/
def dayText (d : Day) : String :=
  padded 4 d.year ++ "-" ++ padded 2 d.month ++ "-" ++ padded 2 d.day

/-- The time in standard notation, with a fraction only if there is one. -/
def clockText (c : Clock) : String :=
  padded 2 c.hour ++ ":" ++ padded 2 c.minute ++ ":" ++ padded 2 c.second ++
    (if c.microsecond = 0 then "" else "." ++ padded 6 c.microsecond)

/-- The distance from universal time in standard notation, no finer than it has to be. -/
def offsetText (offset : Int) : String :=
  let c := Clock.ofMicroseconds offset.natAbs
  (if offset < 0 then "-" else "+") ++
    (if c.second = 0 && c.microsecond = 0 then padded 2 c.hour ++ ":" ++ padded 2 c.minute
    else clockText c)

/-- The moment in standard notation, the given text between day and time. -/
def text (m : Moment) (separator : String) : String :=
  dayText m.day ++ separator ++ clockText m.clock ++ (m.offset.map offsetText).getD ""

/-- Numbers with commas between them. -/
def commaList (ns : List Nat) : String :=
  ", ".intercalate (ns.map fun n => toString n)

/-- A day written out as the construction of a value. -/
def dayConstruction (d : Day) : String :=
  "datetime.date(" ++ commaList [d.year, d.month, d.day] ++ ")"

/-- A span of time written out as the construction of a value: whole days, rounded down, and what is
left over. -/
def spanConstruction (span : Int) : String :=
  let days := span.fdiv microsecondsPerDay
  let rest := (span.fmod microsecondsPerDay).toNat
  let part (name : String) (n : Int) : List String := if n = 0 then [] else [name ++ toString n]
  let parts := part "days=" days ++ part "seconds=" (rest / 1000000 : Nat) ++
    part "microseconds=" (rest % 1000000 : Nat)
  "datetime.timedelta(" ++ (if parts.isEmpty then "0" else ", ".intercalate parts) ++ ")"

/-- A moment written out as the construction of a value. Seconds and microseconds are left out where
they are zero and nothing follows. -/
def construction (m : Moment) : String :=
  let c := m.clock
  let numbers := [m.day.year, m.day.month, m.day.day, c.hour, c.minute] ++
    (if c.microsecond != 0 then [c.second, c.microsecond]
    else if c.second != 0 then [c.second] else [])
  let zone :=
    match m.offset with
    | none => ""
    | some 0 => ", tzinfo=datetime.timezone.utc"
    | some offset => ", tzinfo=datetime.timezone(" ++ spanConstruction offset ++ ")"
  "datetime.datetime(" ++ commaList numbers ++ zone ++ ")"

end Moment

end FieldRules
