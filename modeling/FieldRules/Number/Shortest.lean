import FieldRules.Number.Rounding

/-!
# The shortest text of a double

A double is written with the fewest decimal digits that are read back as the same double, and of
the texts of that length with the one nearest to it. The digits stand around a point as long as the
point is not far from them; otherwise an exponent follows.

## Main definitions

* `Double.Surroundings` — the numbers that round to a double
* `shortestDigits` — the fewest digits, and the place of the point
* `Double.toText` — the text
-/

namespace FieldRules

/-- The place of the point before the first digit of a positive number: it is less than this power
of ten, and not less than the one before. -/
def pointPlace (q : Rat) : Int :=
  if 1 ≤ q then (Nat.toDigits 10 q.floor.toNat).length
  else 1 - ((Nat.toDigits 10 (q⁻¹.ceil.toNat - 1)).length : Int)

/-- The numbers that are rounded to one positive double: those between two bounds, the bounds
included if the last binary digit of the double is even. -/
structure Double.Surroundings where
  low : Rat
  high : Rat
  closed : Bool

/-- The numbers that are rounded to the positive double of the given value. -/
def Double.Surroundings.of (q : Rat) : Double.Surroundings :=
  let exponent := lastPlace q.num.toNat q.den
  let unit : Rat := (2 : Rat) ^ exponent
  let digits := (q / unit).floor.toNat
  let gapBelow := if digits = Nat.pow 2 52 && -1074 < exponent then unit / 2 else unit
  ⟨q - gapBelow / 2, q + unit / 2, digits % 2 = 0⟩

/-- Whether a number is rounded to the double. -/
def Double.Surroundings.contains (s : Double.Surroundings) (x : Rat) : Bool :=
  if s.closed then s.low ≤ x && x ≤ s.high else s.low < x && x < s.high

/-- The nearer one of two neighbours on a decimal grid that lie in the surroundings of a number, the
even one if they are equally near. -/
def nearestOnGrid? (q : Rat) (s : Double.Surroundings) (unit : Rat) : Option Nat :=
  let below := (q / unit).floor.toNat
  let inside := fun (n : Nat) => s.contains (n * unit) && n != 0
  match inside below, inside (below + 1) with
  | true, false => some below
  | false, true => some (below + 1)
  | false, false => none
  | true, true =>
    let down := q - below * unit
    let up := (below + 1 : Nat) * unit - q
    if down < up then some below
    else if up < down then some (below + 1)
    else if below % 2 = 0 then some below
    else some (below + 1)

/-- The digits of the first grid that has a neighbour in the surroundings, of grids with one digit
more each time; and the exponent of the last digit. -/
def firstGrid (q : Rat) (s : Double.Surroundings) (place : Int) : Nat → Nat → Nat × Int
  | digits, 0 => ((q / (10 : Rat) ^ (place - digits)).floor.toNat, place - digits)
  | digits, fuel + 1 =>
    match nearestOnGrid? q s ((10 : Rat) ^ (place - digits)) with
    | some n => (n, place - digits)
    | none => firstGrid q s place (digits + 1) fuel

/-- The fewest digits that are read back as a positive double, and the place of the point before
them. Seventeen digits are always enough. -/
def shortestDigits (q : Rat) : List Char × Int :=
  let (n, exponent) := firstGrid q (.of q) (pointPlace q) 1 17
  let ds := Nat.toDigits 10 n
  ((ds.reverse.dropWhile (· = '0')).reverse, exponent + ds.length)

/-- Zeros as text. -/
def zeros (n : Nat) : List Char :=
  List.replicate n '0'

/-- An exponent: its sign and at least two digits. -/
def exponentText (e : Int) : List Char :=
  let ds := Nat.toDigits 10 e.natAbs
  'e' :: (if e < 0 then '-' else '+') :: (zeros (2 - ds.length) ++ ds)

/-- The text of a positive number from its digits and the place of its point. The point stands
among the digits or at most four places before them, and at most sixteen digits stand before it. -/
def layOut (digits : List Char) (place : Int) : List Char :=
  if place ≤ -4 || 16 < place then
    let mantissa :=
      match digits with
      | first :: second :: rest => first :: '.' :: second :: rest
      | _ => digits
    mantissa ++ exponentText (place - 1)
  else if place ≤ 0 then '0' :: '.' :: (zeros (-place).toNat ++ digits)
  else
    let before := digits.take place.toNat
    let after := digits.drop place.toNat
    before ++ zeros (place.toNat - before.length) ++ '.' :: (if after.isEmpty then ['0'] else after)

/-- The text of a positive number. -/
def positiveText (q : Rat) : List Char :=
  let (digits, place) := shortestDigits q
  layOut digits place

/-- The shortest text that is read back as the same double. -/
def Double.toText : Double → String
  | .nan _ => "nan"
  | .infinity true => "-inf"
  | .infinity false => "inf"
  | .negativeZero => "-0.0"
  | .finite q =>
    if q = 0 then "0.0"
    else if q < 0 then String.ofList ('-' :: positiveText (-q))
    else String.ofList (positiveText q)

end FieldRules
