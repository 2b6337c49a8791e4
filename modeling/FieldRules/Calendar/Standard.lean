import FieldRules.Calendar.Moment
import FieldRules.Text.Digit

/-!
# Moments in standard notation

A moment in the international standard notation is a date, and after one separating character a
time. The date is a day of a month or a day of a week, with hyphens or without. The time has two,
four or six digits, with colons or without, and a fraction; a sign starts the distance from
universal time, which is written like a time. The letter `Z` stands for no distance.

Any one character may separate date and time, so the length of the date has to be told from its
first characters. Where the notation leaves a choice, the hyphen after a week is the separator
if two digits follow it, and an even number of digits after a week without hyphens is a time.

A time that is followed by a distance may have one character of ASCII more than it needs before the
sign; that character is passed over, and so is all that follows six digits of a fraction. A NUL at the end of a time is passed over as well.

## Main definitions

* `Standard.dateLength?` — how many characters of a text are its date
* `Standard.readDay?` — the day that a text writes
* `Standard.readClock?` — a time of day at the start of a text
* `Standard.readMoment?` — the moment that a text writes
-/

namespace FieldRules.Standard

open Text

/-! ## Numbers of fixed width -/

/-- Continues a number with exactly `width` digits of ASCII. -/
def takeNumberFrom (soFar : Nat) : Nat → List Char → Option (Nat × List Char)
  | 0, cs => some (soFar, cs)
  | width + 1, c :: rest =>
    if isAsciiDigit c then takeNumberFrom (10 * soFar + (c.toNat - '0'.toNat)) width rest
    else none
  | _ + 1, [] => none

/-- The number that the first `width` characters write in digits of ASCII, and the rest. -/
def takeNumber (width : Nat) (cs : List Char) : Option (Nat × List Char) :=
  takeNumberFrom 0 width cs

/-! ## Dates -/

/-- How many characters of a text are its date; none if no date starts this way. -/
def dateLength? (cs : List Char) : Option Nat :=
  if cs.length < 7 then none
  else if cs.length = 7 then some 7
  else if cs[4]? = some '-' then
    if cs[5]? = some 'W' then
      if cs[8]? = some '-' then
        if cs.length = 9 then none
        else if cs[10]?.any isAsciiDigit then some 8
        else some 10
      else some 8
    else some 10
  else if cs[4]? = some 'W' then
    let stop := 7 + ((cs.drop 7).takeWhile isAsciiDigit).length
    if stop < 9 then some stop
    else if stop % 2 = 0 then some 7
    else some 8
  else some 8

/-- The number of the day of the week before a day, where Monday has number zero. -/
def weekday (ordinal : Nat) : Nat :=
  (ordinal + 6) % 7

/-- The number of the Monday of week 1: the week that has the first Thursday of the year. -/
def firstMonday (year : Nat) : Nat :=
  let first := Day.daysBeforeYear year + 1
  let day := weekday first
  if 3 < day then first + 7 - day else first - day

/-- Whether a year has a week 53: it starts on a Thursday, or on a Wednesday and is a leap year. -/
def hasLongYear (year : Nat) : Bool :=
  let day := weekday (Day.daysBeforeYear year + 1)
  day = 3 || (day = 2 && isLeapYear year)

/-- The day of a week. -/
def dayOfWeek? (year week day : Nat) : Option Day :=
  if 1 ≤ year && 1 ≤ week && (week < 53 || (week = 53 && hasLongYear year)) &&
      1 ≤ day && day ≤ 7 then
    Day.ofOrdinal? (firstMonday year + 7 * (week - 1) + (day - 1))
  else none

/-- The day of a week whose number the text starts with. Without a number of the day it is Monday. -/
def readWeek? (hyphens : Bool) (year : Nat) (cs : List Char) : Option Day :=
  match takeNumber 2 cs with
  | none => none
  | some (week, []) => dayOfWeek? year week 1
  | some (week, rest) =>
    match hyphens, rest with
    | true, ['-', d] => if isAsciiDigit d then dayOfWeek? year week (d.toNat - '0'.toNat) else none
    | false, [d] => if isAsciiDigit d then dayOfWeek? year week (d.toNat - '0'.toNat) else none
    | _, _ => none

/-- The day whose month and day of the month the text writes. -/
def readMonth? (hyphens : Bool) (year : Nat) (cs : List Char) : Option Day :=
  match takeNumber 2 cs with
  | none => none
  | some (month, rest) =>
    let rest? :=
      match hyphens, rest with
      | true, '-' :: rest => some rest
      | true, _ => none
      | false, rest => some rest
    match rest?.bind (takeNumber 2) with
    | some (day, []) => Day.make? year month day
    | _ => none

/-- The day that a text writes. -/
def readDay? (cs : List Char) : Option Day :=
  match takeNumber 4 cs with
  | none => none
  | some (year, '-' :: 'W' :: rest) => readWeek? true year rest
  | some (year, 'W' :: rest) => readWeek? false year rest
  | some (year, '-' :: rest) => readMonth? true year rest
  | some (year, rest) => readMonth? false year rest

/-! ## Times -/

/-- What follows the pairs of digits of a time. -/
inductive Tail where
  /-- The text ends here, with at most one character left over. -/
  | stop (rest : List Char)
  /-- A fraction of a second starts here. -/
  | fraction (cs : List Char)

/-- The pairs of digits of a time, at most `count` of them. All pairs are separated by colons, or
none is. -/
def takePairs (colons : Option Bool) : Nat → List Char → Option (List Nat × Tail)
  | 0, cs => some ([], .fraction cs)
  | count + 1, cs =>
    match takeNumber 2 cs with
    | none => none
    | some (n, []) => some ([n], .stop [])
    | some (n, [c]) => if c.toNat < 0x80 then some ([n], .stop [c]) else none
    | some (n, mark :: rest) =>
      let colons := colons.getD (mark = ':')
      if colons && mark = ':' then
        (takePairs (some colons) count rest).map fun (ns, tail) => (n :: ns, tail)
      else if mark = '.' || mark = ',' then some ([n], .fraction rest)
      else if colons then none
      else (takePairs (some colons) count (mark :: rest)).map fun (ns, tail) => (n :: ns, tail)

/-- A fraction in microseconds, and the rest of the text. Six digits count, and more are dropped. -/
def takeMicroseconds (cs : List Char) : Option (Nat × List Char) :=
  let width := min 6 cs.length
  (takeNumber width cs).map fun (n, rest) => (n * Nat.pow 10 (6 - width), rest.dropWhile isAsciiDigit)

/-- The time of day at the start of a text, and the rest of the text. -/
def readClock? (cs : List Char) : Option (Clock × List Char) :=
  match takePairs none 3 cs with
  | none => none
  | some (pairs, tail) =>
    let clock := fun microsecond =>
      Clock.mk (pairs[0]?.getD 0) (pairs[1]?.getD 0) (pairs[2]?.getD 0) microsecond
    match tail with
    | .stop rest => some (clock 0, rest)
    | .fraction cs => (takeMicroseconds cs).map fun (n, rest) => (clock n, rest)

/-- Whether a text ends here: nothing is left, or what is left starts with a NUL. -/
def isEnd (cs : List Char) : Bool :=
  cs.head?.all (· = '\x00')

/-- The microseconds ahead of universal time that a text writes after a sign. The distance is less
than a day; a distance of no whole second is none. -/
def readOffset? (negative : Bool) (cs : List Char) : Option Int :=
  match readClock? cs with
  | none => none
  | some (c, rest) =>
    let seconds := (c.hour * 60 + c.minute) * 60 + c.second
    let distance := if seconds = 0 then 0 else seconds * 1000000 + c.microsecond
    if isEnd rest && distance < microsecondsPerDay then
      some (if negative then -(distance : Int) else distance)
    else none

/-- The time of day and the distance from universal time that a text writes. -/
def readTime? (cs : List Char) : Option (Clock × Option Int) :=
  let isSign := fun (c : Char) => c = '+' || c = '-'
  match readClock? (cs.takeWhile fun c => !isSign c), cs.dropWhile fun c => !isSign c with
  | none, _ => none
  | some (c, rest), [] => if isEnd rest && c.isTime then some (c, none) else none
  | some (c, _), sign :: rest =>
    if c.isTime then (readOffset? (sign = '-') rest).map fun offset => (c, some offset) else none

/-- The letter `Z` written out as no distance from universal time. -/
def writeOutZ (cs : List Char) : List Char :=
  cs.flatMap fun c => if c = 'Z' then ['+', '0', '0', ':', '0', '0'] else [c]

/-- The moment that a text writes. A date alone is midnight; after a separating character there must
be a time. -/
def readMoment? (cs : List Char) : Option Moment :=
  let cs := writeOutZ cs
  match dateLength? cs with
  | none => none
  | some n =>
    match readDay? (cs.take n), cs.drop n with
    | none, _ => none
    | some day, [] => some ⟨day, ⟨0, 0, 0, 0⟩, none⟩
    | some day, _ :: time => (readTime? time).map fun (clock, offset) => ⟨day, clock, offset⟩

end FieldRules.Standard
