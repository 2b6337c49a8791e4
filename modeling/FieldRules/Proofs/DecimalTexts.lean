import FieldRules.Proofs.StrictNumerals
import Mathlib.Tactic.IntervalCases

/-!
# Whole numbers in decimal texts

A whole number is written in decimal with a minus if it is negative, and its digits. Such a text is a
strict numeral, and its digits are read back as the number they write. So it has a number wherever a text
may stand for one. But the number it has is a double: the one nearest to the whole number.

## Main statements

* `Text.natOfDigits?_toDigits` — digits are read back
* `Value.toNumber?_decimal` — the number of a decimal text
-/

namespace FieldRules

namespace Text

/-! ## Digits -/

section Digit

variable {c : Char} (h : c.isDigit = true)

include h

theorem mem_of_isDigit : c ∈ "0123456789".toList := by
  have hrange : 48 ≤ c.toNat ∧ c.toNat ≤ 57 := by
    simpa [Char.isDigit, UInt32.le_iff_toNat_le] using h
  obtain ⟨hlow, hhigh⟩ := hrange
  rw [← Char.ofNat_toNat c]
  interval_cases c.toNat <;> decide

/-- What holds of each of the ten digits holds of every digit. -/
theorem of_all_digits {p : Char → Bool} (hall : "0123456789".toList.all p = true) : p c = true :=
  List.all_eq_true.mp hall c (mem_of_isDigit h)

theorem digitValue?_of_isDigit : digitValue? c = some (c.toNat - '0'.toNat) := by
  have hvalue := of_all_digits h (p := fun d => digitValue? d = some (d.toNat - '0'.toNat)) (by decide)
  simpa using hvalue

theorem isDigit_of_charIsDigit : isDigit c = true := by
  rw [isDigit, digitValue?_of_isDigit h]
  rfl

theorem isBlank_of_isDigit : isBlank c = false :=
  isBlank_of_decimal (isDigit_of_charIsDigit h)

theorem ne_of_isDigit {d : Char} (hd : d.isDigit = false) : c ≠ d := by
  rintro rfl
  rw [h] at hd
  cases hd

end Digit

theorem natOfDigitsFrom?_of_isDigit {cs : List Char} (h : ∀ c ∈ cs, c.isDigit = true) (n : Nat) :
    natOfDigitsFrom? n cs = some (Nat.ofDigitChars 10 cs n) := by
  induction cs generalizing n with
  | nil => rfl
  | cons c rest ih =>
      obtain ⟨hc, hrest⟩ := List.forall_mem_cons.mp h
      rw [natOfDigitsFrom?, digitValue?_of_isDigit hc, Nat.ofDigitChars_cons]
      exact ih hrest _

theorem isDigit_of_mem_toDigits {n : Nat} : ∀ c ∈ Nat.toDigits 10 n, c.isDigit = true :=
  fun _ hc => Nat.isDigit_of_mem_toDigits (by decide) (by decide) hc

/-- The decimal digits of a number write this number. -/
theorem natOfDigits?_toDigits (n : Nat) : natOfDigits? (Nat.toDigits 10 n) = some n := by
  rw [natOfDigits?, natOfDigitsFrom?_of_isDigit isDigit_of_mem_toDigits, Nat.ofDigitChars_ten_toDigits]

end Text

open Text

/-! ## Decimal texts -/

section Written

variable (n : Int)

theorem toList_toString : (toString n).toList =
    (if decide (n < 0) then ['-'] else []) ++ Nat.toDigits 10 n.natAbs := by
  cases n with
  | ofNat n => simp [Int.toString_eq_repr, Int.repr]
  | negSucc n => simp [Int.toString_eq_repr, Int.repr, Int.negSucc_lt_zero]

/-- A decimal text is a strict numeral without a point and without an exponent. -/
theorem Numeral.writes_toString :
    Numeral.Writes (toString n).toList ⟨decide (n < 0), n.natAbs, 0⟩ := by
  have hsign : Numeral.IsSign (if decide (n < 0) then ['-'] else []) := by
    split <;> simp [Numeral.IsSign]
  have hwrites := Numeral.Writes.intro hsign
    (.whole Nat.toDigits_ne_nil (natOfDigits?_toDigits n.natAbs)) .none
  rw [List.append_nil, ← toList_toString] at hwrites
  by_cases hn : n < 0 <;> simpa [hn] using hwrites

/-- A decimal text has the number that it writes as a double. -/
theorem Value.toNumber?_decimal : Value.toNumber? (.text (toString n)) =
    some (.double (Decimal.toDouble ⟨decide (n < 0), n.natAbs, 0⟩)) := by
  refine Value.toNumber?_of_writes ?_
  rw [(Numeral.writes_toString n).trim_eq]
  exact Numeral.writes_toString n

end Written

end FieldRules
