import FieldRules.Number.Numeral
import Mathlib.Algebra.Order.Field.Rat
import Mathlib.Tactic.NormNum

/-!
# Whole numbers as doubles

The double nearest to a whole number is again a whole number, unless it is too large for a double. It has
the first 53 binary digits of the number, rounded, and zeros after them. Rounding keeps the order: some
numbers that differ become equal, but no two change places. And it leaves exactly those numbers alone that
are at most 53 binary digits with zeros after them, among them all up to two to the power of 53.

## Main definitions

* `roundedNat`, `roundedInt` — a whole number rounded to 53 binary digits
* `Extended.ofRounded` — the exact number of a double, from the rounded one
* `IsDouble` — the whole numbers that are doubles

## Main statements

* `Decimal.rank?_toDouble` — the double nearest to a whole number
* `roundedInt_mono`, `Extended.ofRounded_le` — rounding keeps the order
* `ofRounded_roundedInt_iff` — what rounding leaves alone
-/

namespace FieldRules

/-! ## Quotients -/

theorem roundHalfEven_mul (q : Nat) {den : Nat} (h : 0 < den) : roundHalfEven (q * den) den = q := by
  simp [roundHalfEven, Nat.mul_div_cancel _ h, h]

/-- The greater quotient is not rounded to the smaller number. -/
theorem roundHalfEven_mono {num num' den : Nat} (hden : 0 < den) (h : num ≤ num') :
    roundHalfEven num den ≤ roundHalfEven num' den := by
  by_contra hlt
  have hsucc : roundHalfEven num' den + 1 ≤ roundHalfEven num den := by omega
  have hmul := Nat.mul_le_mul_right den hsucc
  rw [Nat.add_mul, Nat.one_mul] at hmul
  have hlow := (roundHalfEven_near num hden).1
  have hhigh := (roundHalfEven_near num' hden).2
  -- Both lie within a half, and so they are the same quotient.
  obtain rfl : num = num' := by omega
  exact hlt (Nat.le_refl _)

/-! ## Rounding -/

/-- A natural number with its first 53 binary digits, rounded, and zeros after them. -/
def roundedNat (k : Nat) : Nat :=
  roundHalfEven k (2 ^ (k.log2 - 52)) * 2 ^ (k.log2 - 52)

variable {k l : Nat}

theorem roundedNat_of_log2_le (h : k.log2 ≤ 52) : roundedNat k = k := by
  have hone := roundHalfEven_mul k Nat.one_pos
  rw [Nat.mul_one] at hone
  rw [roundedNat, Nat.sub_eq_zero_of_le h, Nat.pow_zero, hone, Nat.mul_one]

/-- The binary digits that are kept and those that are rounded away make up all of them. -/
theorem two_pow_log2_eq (h : 52 ≤ k.log2) (more : Nat) :
    2 ^ (52 + more) * 2 ^ (k.log2 - 52) = 2 ^ (k.log2 + more) := by
  rw [← Nat.pow_add]
  congr 1
  omega

/-- A rounded number has as many binary digits as before, or is the next power of two. -/
theorem roundedNat_bounds (hk : k ≠ 0) :
    2 ^ k.log2 ≤ roundedNat k ∧ roundedNat k ≤ 2 ^ (k.log2 + 1) := by
  have hlow := Nat.log2_self_le hk
  have hhigh : k < 2 ^ (k.log2 + 1) := Nat.lt_log2_self
  by_cases h : k.log2 ≤ 52
  · rw [roundedNat_of_log2_le h]
    exact ⟨hlow, hhigh.le⟩
  · have hunit : 0 < 2 ^ (k.log2 - 52) := Nat.two_pow_pos _
    have hfirst := two_pow_log2_eq (k := k) (by omega) 0
    have hnext := two_pow_log2_eq (k := k) (by omega) 1
    simp only [Nat.add_zero] at hfirst
    constructor
    · rw [← hfirst] at hlow
      have hround := roundHalfEven_mono hunit hlow
      rw [roundHalfEven_mul _ hunit] at hround
      rw [← hfirst]
      exact Nat.mul_le_mul_right _ hround
    · rw [← hnext] at hhigh
      have hround := roundHalfEven_mono hunit hhigh.le
      rw [roundHalfEven_mul _ hunit] at hround
      rw [← hnext]
      exact Nat.mul_le_mul_right _ hround

/-- Rounding keeps the order: within one power of two the same places are rounded away, and at the next
power of two the numbers from below stop and those from above start. -/
theorem roundedNat_mono (h : k ≤ l) : roundedNat k ≤ roundedNat l := by
  rcases Nat.eq_zero_or_pos k with rfl | hk
  · rw [roundedNat_of_log2_le (by decide)]
    exact Nat.zero_le _
  · have hl : l ≠ 0 := by omega
    have hlog : k.log2 ≤ l.log2 :=
      (Nat.le_log2 hl).mpr ((Nat.log2_self_le (by omega)).trans h)
    rcases Nat.eq_or_lt_of_le hlog with heq | hlt
    · rw [roundedNat, roundedNat, heq]
      exact Nat.mul_le_mul_right _ (roundHalfEven_mono (Nat.two_pow_pos _) h)
    · calc
        roundedNat k ≤ 2 ^ (k.log2 + 1) := (roundedNat_bounds (by omega)).2
        _ ≤ 2 ^ l.log2 := Nat.pow_le_pow_right (by decide) hlt
        _ ≤ roundedNat l := (roundedNat_bounds hl).1

/-- Rounding leaves a number alone if it is made of 53 binary digits and zeros after them. -/
theorem roundedNat_eq_self_iff : roundedNat k = k ↔ ∃ d e, k = d * 2 ^ e ∧ d < 2 ^ 53 := by
  rcases Nat.eq_zero_or_pos k with rfl | hk
  · exact iff_of_true (roundedNat_of_log2_le (by decide)) ⟨0, 0, rfl, by decide⟩
  have hunit : 0 < 2 ^ (k.log2 - 52) := Nat.two_pow_pos _
  constructor
  · intro h
    refine ⟨roundHalfEven k (2 ^ (k.log2 - 52)), k.log2 - 52, h.symm, ?_⟩
    have hlt : roundedNat k < 2 ^ 53 * 2 ^ (k.log2 - 52) := by
      rw [h, ← Nat.pow_add]
      exact Nat.lt_log2_self.trans_le (Nat.pow_le_pow_right (by decide) (by omega))
    exact Nat.lt_of_mul_lt_mul_right hlt
  · rintro ⟨d, e, heq, hd⟩
    -- The zeros at the end are at least as many as the places that are rounded away.
    have hdvd : 2 ^ (k.log2 - 52) ∣ k := by
      have hzeros : k.log2 - 52 ≤ e := by
        by_contra hlt
        have hupper : k < 2 ^ 53 * 2 ^ e := by
          rw [heq]
          exact Nat.mul_lt_mul_of_pos_right hd (Nat.two_pow_pos e)
        rw [← Nat.pow_add] at hupper
        have hlower := (Nat.log2_self_le hk.ne').trans_lt hupper
        have hexponent := (Nat.pow_lt_pow_iff_right (by decide)).mp hlower
        omega
      have hmul := (Nat.pow_dvd_pow 2 hzeros).mul_left d
      rwa [← heq] at hmul
    unfold roundedNat
    generalize 2 ^ (k.log2 - 52) = unit at hunit hdvd
    obtain ⟨q, rfl⟩ := hdvd
    rw [Nat.mul_comm unit q, roundHalfEven_mul q hunit]

/-! ## Doubles -/

theorem scaleDown_log2 (k : Nat) :
    scaleDown k 1 ((k.log2 : Int) - 52) = (k * 2 ^ (52 - k.log2), 2 ^ (k.log2 - 52)) := by
  unfold scaleDown
  split
  · have hzeros : 52 - k.log2 = 0 := by omega
    have hunit : ((k.log2 : Int) - 52).toNat = k.log2 - 52 := by omega
    rw [hzeros, hunit, Nat.pow_zero, Nat.mul_one, Nat.one_mul, Nat.pow_eq]
  · have hunit : k.log2 - 52 = 0 := by omega
    have hzeros : (-((k.log2 : Int) - 52)).toNat = 52 - k.log2 := by omega
    rw [hzeros, hunit, Nat.pow_zero, Nat.pow_eq]

/-- Of a whole number the last place kept is the 53rd from its first. -/
theorem lastPlace_one (hk : k ≠ 0) : lastPlace k 1 = (k.log2 : Int) - 52 := by
  have hfull : ¬ k * 2 ^ (52 - k.log2) < 2 ^ 52 * 2 ^ (k.log2 - 52) := by
    have hlow := Nat.mul_le_mul_right (2 ^ (52 - k.log2)) (Nat.log2_self_le hk)
    rw [← Nat.pow_add, show k.log2 + (52 - k.log2) = 52 + (k.log2 - 52) by omega, Nat.pow_add] at hlow
    omega
  have hone : (Nat.log2 1 : Int) = 0 := by decide
  simp only [lastPlace, hone, Int.sub_zero, scaleDown_log2, Nat.pow_eq, hfull, if_false]
  omega

/-- The magnitude of the double nearest to a whole number, unless it is too large for a double. -/
theorem magnitude_eq_roundedNat (k : Nat) :
    (roundHalfEven (k * 2 ^ (52 - k.log2)) (2 ^ (k.log2 - 52)) : Rat) *
      (2 : Rat) ^ ((k.log2 : Int) - 52) = roundedNat k := by
  rcases Nat.le_total k.log2 52 with h | h
  · have hround := roundHalfEven_mul (k * 2 ^ (52 - k.log2)) Nat.one_pos
    have hexponent : (k.log2 : Int) - 52 = -((52 - k.log2 : Nat) : Int) := by omega
    rw [Nat.mul_one] at hround
    rw [Nat.sub_eq_zero_of_le h, Nat.pow_zero, hround, roundedNat_of_log2_le h, hexponent,
      Rat.zpow_neg, Rat.zpow_natCast, Nat.cast_mul, Nat.cast_pow]
    exact mul_inv_cancel_right₀ (pow_ne_zero _ (by norm_num)) _
  · have hexponent : (k.log2 : Int) - 52 = ((k.log2 - 52 : Nat) : Int) := by omega
    rw [Nat.sub_eq_zero_of_le h, Nat.pow_zero, Nat.mul_one, hexponent, Rat.zpow_natCast, roundedNat,
      Nat.cast_mul, Nat.cast_pow]
    rfl

/-- A rounded whole number, with its sign. -/
def roundedInt (n : Int) : Int :=
  if n < 0 then -(roundedNat n.natAbs : Int) else roundedNat n.natAbs

/-- The least whole number that is too large for a double even after it is rounded. -/
def leastInfinite : Nat := 2 ^ 1024

theorem leastInfinite_pos : 0 < leastInfinite := by
  rw [leastInfinite]
  apply Nat.pow_pos
  decide

namespace Extended

/-- The exact number of the double for a rounded whole number, which is infinite if that is too large. -/
def ofRounded (m : Int) : Extended :=
  if leastInfinite ≤ m then .top else if m ≤ -leastInfinite then .bottom else .real m

/-- Numbers that differ in their sign only are infinite together. -/
theorem ofRounded_natCast (negative : Bool) (m : Nat) :
    ofRounded (if negative then -(m : Int) else m) =
      if leastInfinite ≤ m then (if negative then .bottom else .top)
      else .real (if negative then -(m : Rat) else m) := by
  have hpos := leastInfinite_pos
  unfold ofRounded
  cases negative with
  | true =>
      simp only [if_true]
      rw [if_neg (by omega)]
      by_cases h : leastInfinite ≤ m
      · rw [if_pos (by omega), if_pos h]
      · rw [if_neg (by omega), if_neg h, Int.cast_neg, Int.cast_natCast]
  | false =>
      simp only [Bool.false_eq_true, if_false]
      by_cases h : leastInfinite ≤ m
      · rw [if_pos (by omega), if_pos h]
      · rw [if_neg (by omega), if_neg (by omega), if_neg h, Int.cast_natCast]

end Extended

namespace Double

theorem rank?_zero (negative : Bool) : (Double.zero negative).rank? = some (.real 0) := by
  cases negative <;> rfl

/-- A double whose magnitude is a whole number has this number, with its sign, if it is not too large. -/
theorem rank?_ofBinary (negative : Bool) {digits m : Nat} {exponent : Int}
    (h : (digits : Rat) * (2 : Rat) ^ exponent = m) :
    (ofBinary negative digits exponent).rank? =
      some (.ofRounded (if negative then -(m : Int) else m)) := by
  have hlarge : (2 : Rat) ^ (1024 : Int) ≤ m ↔ leastInfinite ≤ m := by
    rw [show (1024 : Int) = ((1024 : Nat) : Int) from rfl, Rat.zpow_natCast, leastInfinite]
    exact_mod_cast Iff.rfl
  have hpos := leastInfinite_pos
  simp only [ofBinary, h, hlarge, Extended.ofRounded_natCast]
  by_cases hzero : digits = 0
  · obtain rfl : m = 0 := by simpa [hzero, eq_comm] using h
    rw [if_pos hzero, if_neg (by omega), rank?_zero]
    cases negative <;> rfl
  · rw [if_neg hzero]
    split
    · cases negative <;> rfl
    · rfl

/-- The double nearest to a whole number has the rounded number, with its sign. -/
theorem rank?_nearest (negative : Bool) (k : Nat) :
    (nearest negative k 1).rank? =
      some (.ofRounded (if negative then -(roundedNat k : Int) else roundedNat k)) := by
  have hpos := leastInfinite_pos
  rcases Nat.eq_zero_or_pos k with rfl | hk
  · rw [roundedNat_of_log2_le (by decide), Extended.ofRounded_natCast, if_neg (by omega)]
    cases negative <;> rfl
  · simp only [nearest, hk.ne', if_false, lastPlace_one hk.ne', scaleDown_log2]
    exact rank?_ofBinary negative (magnitude_eq_roundedNat k)

end Double

theorem two_pow_le_roundedNat (hk : k ≠ 0) {m : Nat} (h : m ≤ k.log2) : 2 ^ m ≤ roundedNat k :=
  (Nat.pow_le_pow_right (by decide) h).trans (roundedNat_bounds hk).1

/-- A number has at least three binary digits for each of its decimal ones but the first. -/
theorem le_log2_of_length_toDigits {m : Nat} (hm : 0 < m) (h : m < (Nat.toDigits 10 k).length) :
    k ≠ 0 ∧ 3 * m ≤ k.log2 := by
  have hlarge : 10 ^ m ≤ k := by
    rw [← Nat.not_lt, ← Nat.length_toDigits_le_iff (by decide) hm]
    omega
  have hpower : 2 ^ (3 * m) ≤ k := by
    rw [Nat.pow_mul]
    exact (Nat.pow_le_pow_left (by decide) m).trans hlarge
  have hk : k ≠ 0 := ((Nat.two_pow_pos _).trans_le hpower).ne'
  exact ⟨hk, (Nat.le_log2 hk).mpr hpower⟩

/-- The double nearest to a whole number in decimal has the rounded number. -/
theorem Decimal.rank?_toDouble (n : Int) :
    (Decimal.toDouble ⟨decide (n < 0), n.natAbs, 0⟩).rank? = some (.ofRounded (roundedInt n)) := by
  have hrounded : roundedInt n = if decide (n < 0) then -(roundedNat n.natAbs : Int)
      else roundedNat n.natAbs := by
    simp [roundedInt]
  have hnearest := Double.rank?_nearest (decide (n < 0)) n.natAbs
  rw [hrounded]
  generalize decide (n < 0) = negative at hnearest
  simp only [toDouble]
  split
  · rename_i hzero
    rw [← hnearest, hzero]
    rfl
  · split
    · rename_i hlong
      obtain ⟨hk, hlog⟩ :=
        le_log2_of_length_toDigits (k := n.natAbs) (m := 400) (by decide) (by omega)
      have hlarge : leastInfinite ≤ roundedNat n.natAbs := by
        rw [leastInfinite]
        apply two_pow_le_roundedNat hk
        omega
      rw [Extended.ofRounded_natCast, if_pos hlarge]
      cases negative <;> rfl
    · have hshort : ¬ ((Nat.toDigits 10 n.natAbs).length : Int) + 0 < -400 := by omega
      rw [if_neg hshort, if_pos (Int.le_refl 0), ← hnearest]
      simp

/-! ## Order -/

theorem roundedInt_mono {m n : Int} (h : m ≤ n) : roundedInt m ≤ roundedInt n := by
  unfold roundedInt
  split <;> split
  · have hmono := roundedNat_mono (k := n.natAbs) (l := m.natAbs) (by omega)
    omega
  · omega
  · omega
  · have hmono := roundedNat_mono (k := m.natAbs) (l := n.natAbs) (by omega)
    omega

theorem Extended.ofRounded_le {m n : Int} (h : m ≤ n) :
    (ofRounded m).le (ofRounded n) = true := by
  have hpos := leastInfinite_pos
  unfold ofRounded
  split
  · rw [if_pos (by omega)]
    rfl
  · split
    · rfl
    · split
      · rfl
      · rw [if_neg (by omega)]
        simpa [Extended.le] using h

/-! ## Doubles -/

/-- The whole numbers that are doubles: at most 53 binary digits and zeros after them, and not too
many. -/
def IsDouble (n : Int) : Prop :=
  (∃ d e : Nat, n.natAbs = d * 2 ^ e ∧ d < 2 ^ 53) ∧ n.natAbs < leastInfinite

theorem roundedInt_eq_self_iff {n : Int} :
    roundedInt n = n ↔ ∃ d e : Nat, n.natAbs = d * 2 ^ e ∧ d < 2 ^ 53 := by
  rw [← roundedNat_eq_self_iff, roundedInt]
  split <;> omega

/-- Rounding leaves exactly the whole numbers alone that are doubles. -/
theorem ofRounded_roundedInt_iff {n : Int} :
    Extended.ofRounded (roundedInt n) = .real n ↔ IsDouble n := by
  rw [IsDouble, ← roundedInt_eq_self_iff]
  constructor
  · intro h
    unfold Extended.ofRounded at h
    split at h
    · cases h
    · split at h
      · cases h
      · have hsame : roundedInt n = n := by simpa using h
        exact ⟨hsame, by omega⟩
  · rintro ⟨hsame, hsmall⟩
    rw [hsame, Extended.ofRounded, if_neg (by omega), if_neg (by omega)]

/-- Up to two to the power of 53 all whole numbers are doubles. -/
theorem isDouble_of_natAbs_le {n : Int} (h : n.natAbs ≤ 2 ^ 53) : IsDouble n := by
  have hsmall : 2 ^ 53 < leastInfinite := by
    rw [leastInfinite]
    apply Nat.pow_lt_pow_right <;> decide
  refine ⟨?_, by omega⟩
  rcases Nat.eq_or_lt_of_le h with heq | hlt
  · exact ⟨1, 53, by omega, by decide⟩
  · exact ⟨n.natAbs, 0, by omega, hlt⟩

end FieldRules
