import FieldRules.Calendar.Day
import FieldRules.Text.Blank
import FieldRules.Text.Digit

/-!
# Dates in fixed layouts

A layout is a sequence of parts: the numbers of day, month and year, the name of the month, white
space, and characters that stand for themselves. The second digit of a day and all digits of a year
may be of any script; the other digits are those of ASCII, and a day of one digit may have a space
before it. Names of months are those of English, in capital or small letters.

## Main definitions

* `Layout` — a sequence of parts
* `Layout.read?` — the day that a text writes in a layout
* `Layout.common` — the layouts accepted for a date
-/

namespace FieldRules

open Text

/-- A part of a layout. -/
inductive LayoutPart where
  | day
  | month
  | year
  /-- The full name of a month. -/
  | name
  /-- The first three letters of the name of a month. -/
  | shortName
  /-- White space of any length. -/
  | gap
  | char (c : Char)

/-- The layout of a date. -/
abbrev Layout := List LayoutPart

/-- The English names of the months. -/
def monthNames : List String :=
  ["january", "february", "march", "april", "may", "june", "july", "august", "september",
    "october", "november", "december"]

/-- The names of the months cut to three letters. -/
def shortMonthNames : List String :=
  ["jan", "feb", "mar", "apr", "may", "jun", "jul", "aug", "sep", "oct", "nov", "dec"]

/-- Whether the digit is one from 1 to 9. -/
def isPositiveDigit (c : Char) : Bool :=
  '1' ≤ c && c ≤ '9'

/-- The value of a digit of ASCII. -/
def asciiValue (c : Char) : Nat :=
  c.toNat - '0'.toNat

/-- The number of a day at the start of a text, and the rest: the longest that is less than 32. -/
def takeDay? : List Char → Option (Nat × List Char)
  | ' ' :: d :: rest => if isPositiveDigit d then some (asciiValue d, rest) else none
  | '0' :: d :: rest => if isPositiveDigit d then some (asciiValue d, rest) else none
  | c :: rest =>
    let alone := if isPositiveDigit c then some (asciiValue c, rest) else none
    match rest with
    | [] => alone
    | d :: after =>
      if c = '3' && (d = '0' || d = '1') then some (30 + asciiValue d, after)
      else if c = '1' || c = '2' then
        match digitValue? d with
        | some n => some (10 * asciiValue c + n, after)
        | none => alone
      else alone
  | [] => none

/-- The number of a month at the start of a text, and the rest: the longest that is less than 13. -/
def takeMonth? : List Char → Option (Nat × List Char)
  | '1' :: '0' :: rest => some (10, rest)
  | '1' :: '1' :: rest => some (11, rest)
  | '1' :: '2' :: rest => some (12, rest)
  | '0' :: d :: rest => if isPositiveDigit d then some (asciiValue d, rest) else none
  | d :: rest => if isPositiveDigit d then some (asciiValue d, rest) else none
  | [] => none

/-- The number of a year at the start of a text, and the rest: four digits of any script. -/
def takeYear? (cs : List Char) : Option (Nat × List Char) :=
  if cs.length < 4 then none
  else (natOfDigits? (cs.take 4)).map fun n => (n, cs.drop 4)

/-- The number of the month whose name starts the text, and the rest. -/
def takeName? (names : List String) (cs : List Char) : Option (Nat × List Char) :=
  let startsText := fun (name : String) => name.toList == (cs.take name.length).map Char.toLower
  match names.findIdx? startsText, names.find? startsText with
  | some i, some name => some (i + 1, cs.drop name.length)
  | _, _ => none

/-- The numbers of a date, as far as they are read. -/
structure DateNumbers where
  year : Nat := 0
  month : Nat := 0
  day : Nat := 0

namespace Layout

/-- Reads the parts of a layout one after the other, up to the end of the text. -/
def readFrom (found : DateNumbers) : Layout → List Char → Option DateNumbers
  | [], [] => some found
  | [], _ :: _ => none
  | .day :: parts, cs => (takeDay? cs).bind fun (n, rest) => readFrom { found with day := n } parts rest
  | .month :: parts, cs =>
    (takeMonth? cs).bind fun (n, rest) => readFrom { found with month := n } parts rest
  | .year :: parts, cs =>
    (takeYear? cs).bind fun (n, rest) => readFrom { found with year := n } parts rest
  | .name :: parts, cs =>
    (takeName? monthNames cs).bind fun (n, rest) => readFrom { found with month := n } parts rest
  | .shortName :: parts, cs =>
    (takeName? shortMonthNames cs).bind fun (n, rest) =>
      readFrom { found with month := n } parts rest
  | .gap :: parts, c :: rest =>
    if isBlank c then readFrom found parts (rest.dropWhile isBlank) else none
  | .char expected :: parts, c :: rest => if c = expected then readFrom found parts rest else none
  | .gap :: _, [] => none
  | .char _ :: _, [] => none

/-- The day that a text writes in a layout. -/
def read? (layout : Layout) (cs : List Char) : Option Day :=
  (readFrom {} layout cs).bind fun n => Day.make? n.year n.month n.day

/-- Day, month and year, with slashes between them. -/
def dayFirst : Layout := [.day, .char '/', .month, .char '/', .year]

/-- The layouts of a date: month, day and year or year, month and day with slashes between them, and
the four usual ways to write a date with the name of its month. -/
def common : List Layout :=
  [[.month, .char '/', .day, .char '/', .year],
    [.year, .char '/', .month, .char '/', .day],
    [.name, .gap, .day, .char ',', .gap, .year],
    [.shortName, .gap, .day, .char ',', .gap, .year],
    [.day, .gap, .name, .gap, .year],
    [.day, .gap, .shortName, .gap, .year]]

end Layout

end FieldRules
