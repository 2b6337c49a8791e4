import FieldRules.Number.Numeral

/-!
# Whole numbers in settings

A plain numeral is a zero alone, or digits of ASCII that start with none, with a minus sign before it
or not. A setting may also be written less plainly: it is then cleaned first and read as a plain
numeral afterwards. Cleaning takes away the white space around the text, one plus sign, what stands
before the number proper, a fraction of zeros, and single underscores. A minus sign at the start is
kept, and what follows it is cleaned.

What stands before the number proper starts with a zero, and is made of zeros and underscores. It
ends where a digit other than zero follows, or a minus sign, or, but for its last character, before a
point.

Only a text that is read as it is can be too long. One that has been cleaned and still has too many
digits cannot be read.

The rules are those of the platform that checks settings. The service says only which of them are whole
numbers.

## Main definitions

* `WholeReading` — what becomes of a text that should be a whole number
* `WholeReading.ofPlain` — the reading of a plain numeral
* `cleanWhole?` — a text made plainer
* `WholeReading.ofText` — the reading of a text
-/

namespace FieldRules

open Text

/-- What became of a text that should be a whole number. -/
inductive WholeReading where
  | read (n : Int)
  | unreadable
  /-- The text starts with a number of too many digits. -/
  | oversized
  deriving DecidableEq

/-- The reading of a plain numeral. The digits are counted before anything after them is looked at. -/
def WholeReading.ofPlain (cs : List Char) : WholeReading :=
  let (negative, cs) :=
    match cs with
    | '-' :: rest => (true, rest)
    | _ => (false, cs)
  let digits := cs.takeWhile isAsciiDigit
  if cs = ['0'] then .read 0
  else if digits.isEmpty || digits.head? = some '0' then .unreadable
  else if mostDigits < digits.length then .oversized
  else if digits.length < cs.length then .unreadable
  else
    match natOfDigits? digits with
    | some n => .read (if negative then -(n : Int) else n)
    | none => .unreadable

/-- Whether a character is a digit other than zero, or a minus sign. -/
def startsWhole (c : Char) : Bool :=
  ('1' ≤ c && c ≤ '9') || c = '-'

/-- The number proper after zeros and underscores, the last of which is given. -/
def dropPaddingFrom (last : Char) : List Char → Option (List Char)
  | [] => some [last]
  | c :: rest =>
    if c = '0' || c = '_' then dropPaddingFrom c rest
    else if startsWhole c then some (c :: rest)
    else if c = '.' then some (last :: c :: rest)
    else none

/-- The number proper of a text; none if none can start this way. -/
def dropPadding? : List Char → Option (List Char)
  | [] => none
  | c :: rest =>
    if c = '0' then dropPaddingFrom c rest
    else if startsWhole c then some (c :: rest)
    else none

/-- A text without the plus sign at its start; none if a minus sign follows it. -/
def dropPlus? : List Char → Option (List Char)
  | '+' :: '-' :: _ => none
  | '+' :: rest => some rest
  | cs => some cs

/-- A text without a fraction that is one or more zeros. -/
def dropZeroFraction (cs : List Char) : List Char :=
  match cs.dropWhile (· != '.') with
  | _ :: d :: rest => if (d :: rest).all (· = '0') then cs.takeWhile (· != '.') else cs
  | _ => cs

/-- Whether two underscores stand side by side. -/
def hasDoubleUnderscore : List Char → Bool
  | '_' :: '_' :: _ => true
  | _ :: rest => hasDoubleUnderscore rest
  | [] => false

/-- A text without underscores, if each of them stands alone and between other characters. -/
def dropUnderscores (cs : List Char) : List Char :=
  if cs.head? = some '_' || cs.getLast? = some '_' || hasDoubleUnderscore cs then cs
  else cs.filter (· != '_')

/-- A text without white space around it and without signs, made plainer; none if no number is
left. -/
def cleanUnsigned? (cs : List Char) : Option (List Char) :=
  (dropPadding? cs).map fun cs => dropUnderscores (dropZeroFraction cs)

/-- A text made plainer; none if no number is left. -/
def cleanWhole? (cs : List Char) : Option (List Char) :=
  match trimBy isSpace cs with
  | '-' :: rest => (cleanUnsigned? rest).map ('-' :: ·)
  | cs => (dropPlus? cs).bind cleanUnsigned?

/-- The reading of a text: as it is, and if it cannot be read so, made plainer. -/
def WholeReading.ofText (cs : List Char) : WholeReading :=
  match WholeReading.ofPlain cs with
  | .unreadable =>
    match (cleanWhole? cs).map WholeReading.ofPlain with
    | some (.read n) => .read n
    | _ => .unreadable
  | reading => reading

end FieldRules
