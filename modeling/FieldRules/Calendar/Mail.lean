import FieldRules.Calendar.Layout
import FieldRules.Calendar.Moment
import FieldRules.Number.Numeral

/-!
# Dates as mail headers write them

A mail date is a sequence of words: the name of a day that is passed over, the day, the month, the
year, the time, and the zone. Old writers left much of this in another order or form, and such forms
are accepted: the month may stand before the day, the time before the year, the zone before the
year; hyphens may join day, month and year, points may separate the time, and a year of two digits
lies between 1969 and 2068. Words past the fifth are ignored.

Only whether a text is a date is asked. A zone that is no number therefore does not matter. Numbers
may have a sign and grouped digits; a number far outside the calendar is not refused but reported
as too large.

## Main definitions

* `Reading` — whether a text is a date, or holds a number that is too large
* `Mail.read` — the reading of a mail date
-/

namespace FieldRules

open Text

/-- What became of a text that should be a date. -/
inductive Reading where
  | accepted
  | refused
  /-- A number in the text is too large to be checked. -/
  | tooLarge
  deriving DecidableEq

namespace Mail

/-- The names of the days of the week, cut to three letters. -/
def dayNames : List String :=
  ["mon", "tue", "wed", "thu", "fri", "sat", "sun"]

/-- A word with its capital letters made small. -/
def lower (word : List Char) : String :=
  String.ofList (lowerAscii word)

/-- The number of a month from its name, short or full. -/
def monthOf? (word : List Char) : Option Nat :=
  ((shortMonthNames.findIdx? (· = lower word)).orElse fun _ =>
    monthNames.findIdx? (· = lower word)).map (· + 1)

/-- The words without the name of a day: a first word that ends with a comma or names a day is
dropped, and else whatever it holds up to its last comma. -/
def dropDayName : List (List Char) → List (List Char)
  | [] => []
  | first :: rest =>
    if first.getLast? = some ',' || dayNames.contains (lower first) then rest
    else if first.contains ',' then (first.reverse.takeWhile (· != ',')).reverse :: rest
    else first :: rest

/-- Three words whose first one joins day, month and year by hyphens become five. -/
def splitHyphens (words : List (List Char)) : List (List Char) :=
  match words with
  | [date, time, zone] =>
    match date.splitOnP (· = '-') with
    | [a, b, c] => [a, b, c, time, zone]
    | _ => words
  | _ => words

/-- Four words become five: the zone is cut from the end of the time, where a plus sign starts it or
else a minus sign, or it is empty. -/
def splitZone (words : List (List Char)) : List (List Char) :=
  match words with
  | [a, b, c, time] =>
    let mark := if time.contains '+' then '+' else '-'
    let clock := time.takeWhile (· != mark)
    if clock.isEmpty || clock.length = time.length then [a, b, c, time, []]
    else [a, b, c, clock, time.dropWhile (· != mark)]
  | _ => words

/-- A word without a comma at its end. -/
def dropComma (word : List Char) : List Char :=
  if word.getLast? = some ',' then word.dropLast else word

/-- The numbers of a time, as words: hours, minutes and seconds. -/
def splitTime (time : List Char) : Option (List Char × List Char × List Char) :=
  match time.splitOnP (· = ':') with
  | [h, m] => some (h, m, ['0'])
  | [h, m, s] => some (h, m, s)
  | [single] =>
    match single.splitOnP (· = '.') with
    | [h, m] => some (h, m, ['0'])
    | [h, m, s] => some (h, m, s)
    | _ => none
  | _ => none

/-- The words of a date in the order day, month, year, time, zone. -/
structure Words where
  day : List Char
  month : Nat
  year : List Char
  time : List Char
  zone : List Char

/-- Whether a word starts with a digit. -/
def startsWithDigit (word : List Char) : Bool :=
  word.head?.any fun c => isDigit c || isDigitSign c

/-- The five words of a date brought in order; none if one is missing. -/
def arrange? (words : List (List Char)) : Option Words :=
  match words with
  | day :: month :: year :: time :: zone :: _ =>
    if day.isEmpty || month.isEmpty || year.isEmpty then none
    else
      let dayAndMonth? :=
        match monthOf? month with
        | some n => some (day, n)
        | none => (monthOf? day).map fun n => (month, n)
      dayAndMonth?.bind fun (day, month) =>
        let (year, time) :=
          if year.contains ':' && year.head? != some ':' then (time, year) else (year, time)
        let year := dropComma year
        if year.isEmpty || time.isEmpty then none
        else
          let (year, zone) := if startsWithDigit year then (year, zone) else (zone, year)
          some ⟨dropComma day, month, year, dropComma time, zone⟩
  | _ => none

/-- A year of two digits in full. -/
def fullYear (year : Int) : Int :=
  if 100 ≤ year then year else if 68 < year then year + 1900 else year + 2000

/-- The seconds that a zone's clock is ahead, from a number of hours and minutes; none if the zone is
no number or a negative zero. -/
def zoneSeconds? (zone : List Char) : Option Int :=
  match readWhole? zone with
  | none => none
  | some n =>
    if n = 0 && zone.head? = some '-' then none
    else
      let seconds : Int := (n.natAbs / 100) * 3600 + (n.natAbs % 100) * 60
      some (if n < 0 then -seconds else seconds)

/-- The most days a distance from universal time may have to be checked. -/
def mostDays : Int := 999999999

/-- Whether a distance from universal time is less than a day. -/
def checkZone (seconds : Int) : Reading :=
  let days := seconds.fdiv 86400
  if days < -mostDays || mostDays < days then .tooLarge
  else if -86400 < seconds && seconds < 86400 then .accepted
  else .refused

/-- Whether a number fits a signed word of 32 bits, the largest a date is made from. -/
def fitsWord (n : Int) : Bool :=
  -2147483648 ≤ n && n ≤ 2147483647

/-- Whether the numbers are a day and a time of day. -/
def checkNumbers (year month day hour minute second : Int) : Reading :=
  let numbers := [year, month, day, hour, minute, second]
  if !numbers.all fitsWord then .tooLarge
  else if numbers.any (· < 0) then .refused
  else if isDay year.toNat month.toNat day.toNat &&
      (Clock.mk hour.toNat minute.toNat second.toNat 0).isTime then .accepted
  else .refused

/-- Whether the words of a date are a date. The zone is checked first. -/
def Words.check (w : Words) : Reading :=
  match splitTime w.time with
  | none => .refused
  | some (h, m, s) =>
    match readWhole? w.year, readWhole? w.day, readWhole? h, readWhole? m, readWhole? s with
    | some year, some day, some hour, some minute, some second =>
      match (zoneSeconds? w.zone).map checkZone with
      | some .refused => .refused
      | some .tooLarge => .tooLarge
      | _ => checkNumbers (fullYear year) w.month day hour minute second
    | _, _, _, _, _ => .refused

/-- Whether a text is a mail date. -/
def read (cs : List Char) : Reading :=
  match arrange? (splitZone (splitHyphens (dropDayName (words cs)))) with
  | some w => w.check
  | none => .refused

end Mail

end FieldRules
