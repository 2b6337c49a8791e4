import FieldRules.Text.CharClass

/-!
# Decimal digits of any script

A decimal digit is a character with one of the values zero to nine in a positional script
(Unicode 14). Such digits come in blocks of ten, so the table holds the zeros. A digit sign such
as a superscript two has a value as well, but does not take part in positional notation.

## Main definitions

* `digitValue?` — the value of a decimal digit
* `digits`, `asciiDigits` — the decimal digits of all scripts, and those of ASCII
* `isDigit`, `isAsciiDigit` — whether a character is a decimal digit, of any script or of ASCII
* `isDigitSign` — whether a character is a digit outside positional notation
* `natOfDigits?` — the number that a text of decimal digits writes
-/

namespace FieldRules.Text

/-- The digits zero of all scripts. -/
def digitZeros : List Nat := [
  0x0030, 0x0660, 0x06F0, 0x07C0, 0x0966, 0x09E6, 0x0A66, 0x0AE6, 0x0B66, 0x0BE6, 0x0C66, 0x0CE6,
   0x0D66, 0x0DE6, 0x0E50, 0x0ED0, 0x0F20, 0x1040, 0x1090, 0x17E0, 0x1810, 0x1946, 0x19D0, 0x1A80,
   0x1A90, 0x1B50, 0x1BB0, 0x1C40, 0x1C50, 0xA620, 0xA8D0, 0xA900, 0xA9D0, 0xA9F0, 0xAA50, 0xABF0,
   0xFF10, 0x104A0, 0x10D30, 0x11066, 0x110F0, 0x11136, 0x111D0, 0x112F0, 0x11450, 0x114D0,
   0x11650, 0x116C0, 0x11730, 0x118E0, 0x11950, 0x11C50, 0x11D50, 0x11DA0, 0x16A60, 0x16AC0,
   0x16B50, 0x1D7CE, 0x1D7D8, 0x1D7E2, 0x1D7EC, 0x1D7F6, 0x1E140, 0x1E2F0, 0x1E950, 0x1FBF0]

/-- The value of a decimal digit of any script. -/
def digitValue? (c : Char) : Option Nat :=
  (digitZeros.find? fun start => start ≤ c.toNat && c.toNat < start + 10).map (c.toNat - ·)

/-- The decimal digits of all scripts. -/
def digits : CharClass :=
  digitZeros.map fun start => (start, start + 9)

/-- A decimal digit of any script. -/
def isDigit (c : Char) : Bool :=
  (digitValue? c).isSome

/-- The ten digits of ASCII. -/
def asciiDigits : CharClass :=
  .range '0' '9'

/-- One of the ten digits of ASCII. -/
def isAsciiDigit (c : Char) : Bool :=
  '0' ≤ c && c ≤ '9'

/-- The digits that are no decimal digits: superscripts, circled digits and their like. -/
def digitSigns : CharClass := [
  (0x00B2, 0x00B3), (0x00B9, 0x00B9), (0x1369, 0x1371), (0x19DA, 0x19DA), (0x2070, 0x2070),
   (0x2074, 0x2079), (0x2080, 0x2089), (0x2460, 0x2468), (0x2474, 0x247C), (0x2488, 0x2490),
   (0x24EA, 0x24EA), (0x24F5, 0x24FD), (0x24FF, 0x24FF), (0x2776, 0x277E), (0x2780, 0x2788),
   (0x278A, 0x2792), (0x10A40, 0x10A43), (0x10E60, 0x10E68), (0x11052, 0x1105A),
   (0x1F100, 0x1F10A)]

/-- A digit that takes no part in positional notation. -/
def isDigitSign (c : Char) : Bool :=
  digitSigns.has c

theorem has_digits (c : Char) : digits.has c = isDigit c := by
  have h : (digitZeros.any fun start => decide (start ≤ c.toNat) && decide (c.toNat ≤ start + 9)) =
      digitZeros.any fun start => decide (start ≤ c.toNat) && decide (c.toNat < start + 10) :=
    congrArg _ (funext fun start => by rw [decide_eq_decide.2 Nat.lt_succ_iff])
  simpa [digits, CharClass.has, isDigit, digitValue?, List.any_map, Function.comp_def,
    List.isSome_find?] using h

theorem has_asciiDigits (c : Char) : asciiDigits.has c = isAsciiDigit c := by
  rw [Bool.eq_iff_iff]
  simp [asciiDigits, isAsciiDigit]

/-- Continues a number with the decimal digits of a text, none if it holds any other character. -/
def natOfDigitsFrom? (soFar : Nat) : List Char → Option Nat
  | [] => some soFar
  | c :: rest =>
    match digitValue? c with
    | some d => natOfDigitsFrom? (10 * soFar + d) rest
    | none => none

/-- The number a text of decimal digits writes; the empty text writes zero. -/
def natOfDigits? (cs : List Char) : Option Nat :=
  natOfDigitsFrom? 0 cs

/-- A text of digits has a value, whatever came before it. -/
theorem isSome_natOfDigitsFrom?_iff (n : Nat) (cs : List Char) :
    (natOfDigitsFrom? n cs).isSome ↔ ∀ c ∈ cs, isDigit c = true := by
  induction cs generalizing n with
  | nil => simp [natOfDigitsFrom?]
  | cons c rest ih =>
    cases h : digitValue? c <;> simp [natOfDigitsFrom?, h, isDigit, ih]

/-- Exactly the texts of decimal digits have a value. -/
theorem isSome_natOfDigits?_iff (cs : List Char) :
    (natOfDigits? cs).isSome ↔ ∀ c ∈ cs, isDigit c = true :=
  isSome_natOfDigitsFrom?_iff 0 cs

end FieldRules.Text
