import FieldRules.Number.Double

/-!
# Rounding to the nearest double

A double of the usual format is a whole number of up to 53 binary digits times a power of two, the
exponent no less than -1074. An exact quotient is rounded to the nearest such number, and a tie goes
to the even one. What would need an exponent above 971 becomes an infinity.

## Main definitions

* `roundHalfEven` — a quotient as the nearest whole number
* `lastPlace` — the exponent of the last binary digit kept
* `Double.nearest` — the double nearest to a quotient
-/

namespace FieldRules

/-- The whole number nearest to a quotient, the even one if two are equally near. -/
def roundHalfEven (num den : Nat) : Nat :=
  let quotient := num / den
  let rest := num % den
  if 2 * rest < den then quotient
  else if den < 2 * rest then quotient + 1
  else if quotient % 2 = 0 then quotient
  else quotient + 1

/-- A quotient divided by a power of two, again as a quotient. -/
def scaleDown (num den : Nat) (exponent : Int) : Nat × Nat :=
  if 0 ≤ exponent then (num, den * Nat.pow 2 exponent.toNat)
  else (num * Nat.pow 2 (-exponent).toNat, den)

/-- The exponent of the last binary digit that is kept of a positive quotient: the one that leaves
53 digits, or the least one there is. -/
def lastPlace (num den : Nat) : Int :=
  let guess : Int := (num.log2 : Int) - den.log2 - 52
  let (a, b) := scaleDown num den guess
  max (if a < Nat.pow 2 52 * b then guess - 1 else guess) (-1074)

/-- A zero of the given sign. -/
def Double.zero (negative : Bool) : Double :=
  if negative then .negativeZero else .finite 0

/-- The double of the given sign, digits and exponent. -/
def Double.ofBinary (negative : Bool) (digits : Nat) (exponent : Int) : Double :=
  let magnitude : Rat := (digits : Rat) * (2 : Rat) ^ exponent
  if digits = 0 then .zero negative
  else if (2 : Rat) ^ (1024 : Int) ≤ magnitude then .infinity negative
  else .finite (if negative then -magnitude else magnitude)

/-- The double nearest to a quotient, of the given sign. -/
def Double.nearest (negative : Bool) (num den : Nat) : Double :=
  if num = 0 then .zero negative
  else
    let exponent := lastPlace num den
    let (a, b) := scaleDown num den exponent
    .ofBinary negative (roundHalfEven a b) exponent

/-- Rounding never moves a quotient by more than a half. -/
theorem roundHalfEven_near (num : Nat) {den : Nat} (h : 0 < den) :
    2 * (roundHalfEven num den * den) ≤ 2 * num + den ∧
      2 * num ≤ 2 * (roundHalfEven num den * den) + den := by
  have split : den * (num / den) + num % den = num := Nat.div_add_mod num den
  have up : (num / den + 1) * den = den * (num / den) + den := by
    rw [Nat.add_mul, Nat.one_mul, Nat.mul_comm]
  have down : num / den * den = den * (num / den) := Nat.mul_comm _ _
  unfold roundHalfEven
  dsimp only
  split
  · omega
  · split
    · have := Nat.mod_lt num h
      omega
    · split <;> omega

end FieldRules
