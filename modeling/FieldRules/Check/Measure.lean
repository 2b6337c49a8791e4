import FieldRules.Number.Numeral
import FieldRules.Value.Mapping

/-!
# Numbers and lengths of values

A rule about bounds compares numbers. A value is a number if it is one, or if it is a text that is a
strict numeral, with white space around it or not; truth values are no numbers. A length is that of a
text, a list or a tuple.

## Main definitions

* `Value.toNumber?` — the number of a value
* `Value.length?` — the length of a value
* `Value.startsWithNumber` — whether a value is a number or a text that begins with one
-/

namespace FieldRules.Value

open Text

/-- The number that a text writes as a strict numeral, white space around it aside. -/
def numberOfText? (cs : List Char) : Option Number :=
  let cs := trim cs
  if Numeral.strict.fits cs then (Double.read? 0 cs).map .double else none

/-- The number of a value. -/
def toNumber? (v : Value) : Option Number :=
  match v with
  | .text s => numberOfText? s.toList
  | v => v.number?

/-- The length of a value. -/
def length? : Value → Option Nat
  | .text s => some s.length
  | .list xs | .tuple xs => some xs.length
  | _ => none

/-- Whether a value is a number or a text that begins with one. -/
def startsWithNumber (v : Value) : Bool :=
  match v with
  | .text s => Numeral.lenient.fits s.toList
  | v => v.number?.isSome

end FieldRules.Value
