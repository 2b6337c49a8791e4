import FieldRules.Check.Judgement
import FieldRules.Proofs.DecimalTexts
import FieldRules.Proofs.RoundedWholes
import FieldRules.Proofs.Trials

/-!
# Whole numbers and their texts as bounds

The checks of bounds and of ranges take a whole number as it is, whatever its size, or a text that writes
it. But a text writes a double, and so it stands for the double nearest to the number. As long as all the
numbers that are written as texts are doubles, it makes no difference which of them are, and the answer is
that of the exact comparison. All numbers up to two to the power of 53 are.

Beyond that it does make a difference. Rounding keeps the order, so that numbers that are all written as
texts pass whenever they should. But a number that is no double is not found equal to its own text.

## Main definitions

* `Writing` — the ways to give a whole number
* `Writing.IsExact` — the ways that change nothing

## Main statements

* `Kind.judge_max_written`, `Kind.judge_min_written`, `Kind.judge_range_written` — what the checks compare
* `Kind.bounds_of_written` — when it makes no difference how the numbers are given
* `Kind.not_always_exact` — when it does
-/

namespace FieldRules

/-! ## Exact numbers -/

namespace Extended

theorem real_le_real_iff {m n : Int} : (real m).le (.real n) = decide (m ≤ n) := by
  simp [le]

/-- What is not less and not greater than a number is this number. -/
theorem eq_real_of_le {x : Extended} {q : Rat} (hle : x.le (.real q) = true)
    (hge : (real q).le x = true) : x = .real q := by
  cases x with
  | real p => simpa [le] using le_antisymm (by simpa [le] using hle) (by simpa [le] using hge)
  | bottom => cases hge
  | top => cases hle

end Extended

/-! ## Ways of writing -/

/-- A way to give a whole number: as it is, or as a text in decimal. -/
inductive Writing where
  | number
  | text

namespace Writing

/-- A whole number as a value. -/
def value : Writing → Int → Value
  | .number, n => .int n
  | .text, n => .text (toString n)

/-- The exact number that is compared in place of a whole number. -/
def exact : Writing → Int → Extended
  | .number, n => .real n
  | .text, n => .ofRounded (roundedInt n)

/-- The whole number is given as it is, or it is a double. -/
def IsExact (w : Writing) (n : Int) : Prop :=
  w = .text → IsDouble n

variable {v w : Writing} {n m : Int}

theorem exact_eq_real_iff : w.exact n = .real n ↔ w.IsExact n := by
  cases w with
  | number => simp [exact, IsExact]
  | text => simp [exact, IsExact, ofRounded_roundedInt_iff]

theorem exists_toNumber?_value (w : Writing) (n : Int) :
    ∃ p, (w.value n).toNumber? = some p ∧ p.rank? = some (w.exact n) := by
  cases w with
  | number => exact ⟨.whole n, rfl, rfl⟩
  | text => exact ⟨_, Value.toNumber?_decimal n, Decimal.rank?_toDouble n⟩

theorem isTruthy_value (w : Writing) (hn : n ≠ 0) : (w.value n).isTruthy = true := by
  cases w with
  | number => simpa [value, Value.isTruthy] using hn
  | text =>
      have hchars : (toString n).toList ≠ [] := by
        rw [toList_toString]
        exact List.append_ne_nil_of_right_ne_nil _ Nat.toDigits_ne_nil
      simpa [value, Value.isTruthy] using hchars

end Writing

namespace Kind

variable {s : Surroundings} {fields : Value} {v w : Writing} {n m : Int}

/-- The check of an upper bound compares the exact numbers. -/
theorem judge_max_written (hn : n ≠ 0) :
    max.judge s (v.value n) (w.value m) fields =
      .ok (some ((v.exact n).le (w.exact m))) := by
  obtain ⟨p, hp, hprank⟩ := v.exists_toNumber?_value n
  obtain ⟨q, hq, hqrank⟩ := w.exists_toNumber?_value m
  simp [judge, judgeBound, v.isTruthy_value hn, hp, hq, Number.le, hprank, hqrank]

theorem judge_min_written (hn : n ≠ 0) :
    min.judge s (v.value n) (w.value m) fields =
      .ok (some ((w.exact m).le (v.exact n))) := by
  obtain ⟨p, hp, hprank⟩ := v.exists_toNumber?_value n
  obtain ⟨q, hq, hqrank⟩ := w.exists_toNumber?_value m
  simp [judge, judgeBound, v.isTruthy_value hn, hp, hq, Number.le, hprank, hqrank]

theorem judge_range_written (hn : n ≠ 0) {entries : Mapping} {low high : Int} {wlow whigh : Writing}
    (hlow : Mapping.getOrNull entries (.text "from") = wlow.value low)
    (hhigh : Mapping.getOrNull entries (.text "to") = whigh.value high) :
    range.judge s (v.value n) (.mapping entries) fields =
      .ok (some ((wlow.exact low).le (v.exact n) && (v.exact n).le (whigh.exact high))) := by
  obtain ⟨p, hp, hprank⟩ := v.exists_toNumber?_value n
  obtain ⟨q, hq, hqrank⟩ := wlow.exists_toNumber?_value low
  obtain ⟨r, hr, hrrank⟩ := whigh.exists_toNumber?_value high
  simp [judge, judgeRange, v.isTruthy_value hn, hlow, hhigh, hp, hq, hr, Number.le, hprank, hqrank,
    hrrank]

/-- Numbers that are written as texts pass whenever they should, if all of them are. -/
theorem le_of_all_text (h : n ≤ m) : (Writing.text.exact n).le (Writing.text.exact m) = true :=
  Extended.ofRounded_le (roundedInt_mono h)

/-- A number that is no double is not found equal to its text, from one side or from the other. -/
theorem not_le_and_ge_of_not_isDouble (hn : ¬ IsDouble n) (hne : v ≠ w) :
    ¬ ((v.exact n).le (w.exact n) = true ∧ (w.exact n).le (v.exact n) = true) := by
  rintro ⟨hle, hge⟩
  have htext : Writing.text.exact n = .real n := by
    cases v <;> cases w
    · exact absurd rfl hne
    · exact Extended.eq_real_of_le hge hle
    · exact Extended.eq_real_of_le hle hge
    · exact absurd rfl hne
  exact hn (ofRounded_roundedInt_iff.mp htext)

/-- A number other than zero is compared exactly with its bounds, whatever their sizes, as long as each of
the numbers is given as it is or is a double. Numbers that are all given as texts pass whenever they
should. But a number that is no double does not pass both as least and as greatest, if either the value
or the bound is given as a text and the other one as it is. -/
theorem bounds_of_written (s : Surroundings) (fields : Value) {n : Int} (hn : n ≠ 0) :
    (∀ (v w : Writing) (m : Int), v.IsExact n → w.IsExact m →
      max.judge s (v.value n) (w.value m) fields = .ok (some (decide (n ≤ m))) ∧
      min.judge s (v.value n) (w.value m) fields = .ok (some (decide (m ≤ n)))) ∧
    (∀ (v wlow whigh : Writing) (low high : Int) (entries : Mapping), v.IsExact n →
      wlow.IsExact low → whigh.IsExact high →
      Mapping.getOrNull entries (.text "from") = wlow.value low →
      Mapping.getOrNull entries (.text "to") = whigh.value high →
        range.judge s (v.value n) (.mapping entries) fields =
          .ok (some (decide (low ≤ n) && decide (n ≤ high)))) ∧
    (∀ m, (n ≤ m → max.judge s (.text (toString n)) (.text (toString m)) fields =
        .ok (some true)) ∧
      (m ≤ n → min.judge s (.text (toString n)) (.text (toString m)) fields = .ok (some true))) ∧
    (¬ IsDouble n → ∀ v w : Writing, v ≠ w →
      ¬ (max.judge s (v.value n) (w.value n) fields = .ok (some true) ∧
        min.judge s (v.value n) (w.value n) fields = .ok (some true))) := by
  refine ⟨fun v w m hv hw => ⟨?_, ?_⟩, fun v wlow whigh low high entries hv hlow hhigh hfrom hto => ?_,
    fun m => ⟨fun h => ?_, fun h => ?_⟩, fun hdouble v w hne => ?_⟩
  · rw [judge_max_written hn, Writing.exact_eq_real_iff.mpr hv, Writing.exact_eq_real_iff.mpr hw,
      Extended.real_le_real_iff]
  · rw [judge_min_written hn, Writing.exact_eq_real_iff.mpr hv, Writing.exact_eq_real_iff.mpr hw,
      Extended.real_le_real_iff]
  · rw [judge_range_written hn hfrom hto, Writing.exact_eq_real_iff.mpr hv,
      Writing.exact_eq_real_iff.mpr hlow, Writing.exact_eq_real_iff.mpr hhigh,
      Extended.real_le_real_iff, Extended.real_le_real_iff]
  · have hanswer : max.judge s (Writing.text.value n) (Writing.text.value m) fields = _ :=
      judge_max_written hn
    rwa [le_of_all_text h] at hanswer
  · have hanswer : min.judge s (Writing.text.value n) (Writing.text.value m) fields = _ :=
      judge_min_written hn
    rwa [le_of_all_text h] at hanswer
  · rw [judge_max_written hn, judge_min_written hn]
    simpa using not_le_and_ge_of_not_isDouble hdouble hne

/-- Two to the power of 70 is a double. Given as a text it is at most the number after it, and not within
a range that ends before it. -/
theorem bounds_of_power :
    max.judge .silent (.text "1180591620717411303424") (.int 1180591620717411303425)
        .null = .ok (some true) ∧
      range.judge .silent (.text "1180591620717411303424")
        (.mapping [(.text "from", .text "-5"), (.text "to", .int 1180591620717411303423)]) .null =
          .ok (some false) := by
  have hdouble : IsDouble (2 ^ 70) := ofRounded_roundedInt_iff.mp (by decide +kernel)
  have hlow : IsDouble (-5) := isDouble_of_natAbs_le (by decide)
  obtain ⟨hbounds, hrange, -⟩ :=
    bounds_of_written .silent .null (n := 2 ^ 70) (by decide)
  constructor
  · exact (hbounds .text .number 1180591620717411303425 (fun _ => hdouble) (fun h => by cases h)).1
  · exact hrange .text .text .number (-5) 1180591620717411303423 _ (fun _ => hdouble)
      (fun _ => hlow) (fun h => by cases h) rfl rfl

/-- A number that is given as a text is not always compared as it would be as it is: the text of the first
number that is no double is at most the number before it. -/
theorem not_always_exact :
    ¬ ∀ (n m : Int) (v w : Writing), n ≠ 0 →
      max.judge .silent (v.value n) (w.value m) .null =
        max.judge .silent (.int n) (.int m) .null := by
  intro h
  have hanswer := h (2 ^ 53 + 1) (2 ^ 53) .text .number (by decide)
  have hrounded : (Writing.text.exact (2 ^ 53 + 1)).le (Writing.number.exact (2 ^ 53)) = true := by
    decide +kernel
  have hwhole : max.judge .silent (.int (2 ^ 53 + 1)) (.int (2 ^ 53)) .null =
      .ok (some false) := rfl
  rw [judge_max_written (by decide), hrounded, hwhole] at hanswer
  cases hanswer

end Kind

end FieldRules
