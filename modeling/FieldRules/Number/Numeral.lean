import FieldRules.Number.Rounding
import FieldRules.Text.Blank
import FieldRules.Text.Digit
import FieldRules.Text.Shape

/-!
# Numbers as text

Two shapes of numeric text are used. A strict numeral is a whole text: a sign, decimal digits of any
script with at most one point, and an exponent. A lenient numeral only has to begin like a number,
after white space, and may also begin with the word for infinity.

Reading is a separate matter: `Double.read?` reads every text that writes a double, among them the
names of infinity and of no number, and digits grouped by single underscores; `readWhole?` does the
same for whole numbers.

## Main definitions

* `Numeral.strict`, `Numeral.lenient` — the two shapes
* `Decimal`, `Decimal.toDouble` — a decimal fraction and the double nearest to it
* `Double.read?` — the double a text writes
* `readWhole?` — the whole number a text writes
-/

namespace FieldRules

open Text

namespace Numeral

/-- A sign, which may be missing. -/
def sign : Shape :=
  .maybe (.one (.anyOf "+-"))

/-- One or more decimal digits of any script. -/
def digits : Shape :=
  .oneOrMore (.one Text.digits)

/-- Digits, after which a point may come and more digits, or a point and digits. -/
def mantissa : Shape :=
  .or (.seq digits (.maybe (.seq (.literal ['.']) (.many (.one Text.digits)))))
    (.seq (.literal ['.']) digits)

/-- An exponent, which may be missing. -/
def exponent : Shape :=
  .maybe (.all [.one (.anyOf "eE"), sign, digits])

/-- A numeral without anything around it. -/
def strict : Shape :=
  .all [sign, mantissa, exponent]

/-- A text that begins with a number or with the word for infinity, after white space. -/
def lenient : Shape :=
  .all [.many (.one blanks), sign,
    .or (.literal ['I', 'n', 'f', 'i', 'n', 'i', 't', 'y']) (.seq mantissa exponent), .anything]

end Numeral

/-! ## Reading -/

/-- A decimal fraction: a sign, digits, and the power of ten they are multiplied with. -/
structure Decimal where
  negative : Bool
  digits : Nat
  exponent : Int

/-- The double nearest to a decimal fraction. Beyond 400 places from the point the answer is an
infinity or a zero, whatever the digits are, and the power of ten is not computed. -/
def Decimal.toDouble (d : Decimal) : Double :=
  let places : Int := (Nat.toDigits 10 d.digits).length + d.exponent
  if d.digits = 0 then .zero d.negative
  else if 400 < places then .infinity d.negative
  else if places < -400 then .zero d.negative
  else if 0 ≤ d.exponent then .nearest d.negative (d.digits * Nat.pow 10 d.exponent.toNat) 1
  else .nearest d.negative d.digits (Nat.pow 10 (-d.exponent).toNat)

/-- Splits off a sign: whether it is a minus, and the rest. -/
def takeSign : List Char → Bool × List Char
  | '+' :: rest => (false, rest)
  | '-' :: rest => (true, rest)
  | cs => (false, cs)

/-- The text without the underscores between its digits; none if an underscore stands elsewhere. -/
def ungroupFrom (afterDigit : Bool) : List Char → Option (List Char)
  | [] => some []
  | c :: rest =>
    if c = '_' then
      if afterDigit && (rest.head?.map isDigit).getD false then ungroupFrom false rest else none
    else (ungroupFrom (isDigit c) rest).map (c :: ·)

/-- The text without the underscores that group its digits. -/
def ungroup (cs : List Char) : Option (List Char) :=
  ungroupFrom false cs

/-- The exponent at the end of a numeral; none if there is text that is no exponent. -/
def readExponent? : List Char → Option Int
  | [] => some 0
  | mark :: rest =>
    let (negative, ds) := takeSign rest
    if (mark = 'e' || mark = 'E') && !ds.isEmpty then
      (natOfDigits? ds).map fun n => if negative then -(n : Int) else n
    else none

/-- The digits after the point: what they add, how many they are, and the rest. -/
def takeFraction : List Char → List Char × List Char
  | '.' :: rest => (rest.takeWhile isDigit, rest.dropWhile isDigit)
  | cs => ([], cs)

/-- The decimal fraction that a text without sign writes. -/
def readDecimal? (negative : Bool) (cs : List Char) : Option Decimal :=
  let before := cs.takeWhile isDigit
  let (fraction, rest) := takeFraction (cs.dropWhile isDigit)
  if before.isEmpty && fraction.isEmpty then none
  else
    match natOfDigits? (before ++ fraction), readExponent? rest with
    | some digits, some exponent => some ⟨negative, digits, exponent - fraction.length⟩
    | _, _ => none

/-- The capital letters of ASCII made small. -/
def lowerAscii (cs : List Char) : List Char :=
  cs.map Char.toLower

/-- The double that a text writes, with white space around it or not; information separators are none
here. A text for no number gets the identity that is given. A text of more than a thousand million digits
could be refused; it is read as any other. -/
def Double.read? (identity : Nat) (cs : List Char) : Option Double :=
  match ungroup (trimBy isSpace cs) with
  | none => none
  | some cs =>
    let (negative, cs) := takeSign cs
    let name := String.ofList (lowerAscii cs)
    if name = "inf" || name = "infinity" then some (.infinity negative)
    else if name = "nan" then some (.nan identity)
    else (readDecimal? negative cs).map Decimal.toDouble

/-- The most digits a whole number may have to be read. -/
def mostDigits : Nat := 4300

/-- The whole number that a text writes: a sign, then decimal digits of any script, grouped by single
underscores or not, with white space around it or not. -/
def readWhole? (cs : List Char) : Option Int :=
  match ungroup (trimBy isSpace cs) with
  | none => none
  | some cs =>
    let (negative, ds) := takeSign cs
    if ds.isEmpty || mostDigits < ds.length then none
    else (natOfDigits? ds).map fun n => if negative then -(n : Int) else n

end FieldRules
