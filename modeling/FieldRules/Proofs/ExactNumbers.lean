import FieldRules.Check.Judgement
import FieldRules.Proofs.Trials
import Mathlib.Algebra.Order.Ring.Rat
import Mathlib.Logic.Relation
import Mathlib.Order.WithBot

/-!
# Numbers are compared as they are

A whole number of any size and a double stand for an exact number: a rational, or one of two infinities,
which lie below and above all rationals. A result that is no number stands for nothing. The checks that
compare two numbers compare what they stand for, in this order and in no other way. No whole number is
made a double first, which would move it as soon as it has more than 53 binary digits.

So the order in which bounds are compared is one order for numbers of both kinds, and a value that is
within a bound is within every greater one, whatever kinds of numbers are passed on the way to it.

## Main definitions

* `Number.value` — a number as a value
* `Number.Denotes` — the exact number that a number stands for
* `Number.AtMost` — the order of numbers by what they stand for

## Main statements

* `Number.equal_iff_denotes`, `Number.le_iff_atMost` — the two comparisons
* `Kind.numbers_compare_exactly` — what the checks compare
-/

namespace FieldRules

/-! ## What numbers stand for -/

namespace Extended

/-- An exact number among the rationals with a least and a greatest element. -/
def place : Extended → WithBot (WithTop ℚ)
  | .bottom => ⊥
  | .real q => ((q : WithTop ℚ) : WithBot (WithTop ℚ))
  | .top => ((⊤ : WithTop ℚ) : WithBot (WithTop ℚ))

theorem place_le_place_iff (x y : Extended) : x.place ≤ y.place ↔ x.le y = true := by
  cases x <;> cases y <;> simp [place, le]

theorem place_inj {x y : Extended} : x.place = y.place ↔ x = y := by
  cases x <;> cases y <;> simp [place]

end Extended

namespace Number

/-- A number as a value. -/
def value : Number → Value
  | .whole n => .int n
  | .double x => .float x

/-- The exact number that a number stands for. -/
inductive Denotes : Number → WithBot (WithTop ℚ) → Prop
  | whole (n : Int) : Denotes (.whole n) (((n : ℚ) : WithTop ℚ) : WithBot (WithTop ℚ))
  | finite (q : ℚ) : Denotes (.double (.finite q)) ((q : WithTop ℚ) : WithBot (WithTop ℚ))
  | negativeZero : Denotes (.double .negativeZero) (((0 : ℚ) : WithTop ℚ) : WithBot (WithTop ℚ))
  | infinity : Denotes (.double (.infinity false)) ((⊤ : WithTop ℚ) : WithBot (WithTop ℚ))
  | negativeInfinity : Denotes (.double (.infinity true)) ⊥

/-- Both numbers stand for something, and the second one for nothing less than the first. -/
def AtMost (a b : Number) : Prop :=
  ∃ x y, a.Denotes x ∧ b.Denotes y ∧ x ≤ y

variable {a b : Number} {x y : WithBot (WithTop ℚ)}

theorem denotes_iff : a.Denotes x ↔ ∃ r, a.rank? = some r ∧ r.place = x := by
  constructor
  · intro h
    cases h <;> exact ⟨_, rfl, rfl⟩
  · rintro ⟨r, hr, rfl⟩
    rcases a with n | ⟨i | ⟨_ | _⟩ | _ | q⟩ <;> cases hr <;> constructor

theorem Denotes.unique (hx : a.Denotes x) (hy : a.Denotes y) : x = y := by
  obtain ⟨r, hr, rfl⟩ := denotes_iff.mp hx
  obtain ⟨r', hr', rfl⟩ := denotes_iff.mp hy
  rw [Option.some.inj (hr.symm.trans hr')]

/-- A result that is no number stands for nothing. -/
theorem not_denotes_nan (i : Nat) : ¬ (double (.nan i)).Denotes x := nofun

/-- Numbers are equal if they stand for the same. -/
theorem equal_iff_denotes : a.equal b = true ↔ ∃ x, a.Denotes x ∧ b.Denotes x := by
  cases ha : a.rank? <;> cases hb : b.rank? <;>
    simp [equal, denotes_iff, ha, hb, Extended.place_inj, eq_comm]

theorem le_iff_atMost : a.le b = true ↔ a.AtMost b := by
  cases ha : a.rank? <;> cases hb : b.rank? <;>
    simp [le, AtMost, denotes_iff, ha, hb, Extended.place_le_place_iff]

theorem AtMost.trans {c : Number} (hab : a.AtMost b) (hbc : b.AtMost c) : a.AtMost c := by
  obtain ⟨x, y, hx, hy, hxy⟩ := hab
  obtain ⟨y', z, hy', hz, hyz⟩ := hbc
  obtain rfl := hy.unique hy'
  exact ⟨x, z, hx, hz, hxy.trans hyz⟩

/-- A result that is no number is neither equal to anything nor at most or at least anything. -/
theorem compares_nan {i : Nat} (h : a = .double (.nan i) ∨ b = .double (.nan i)) :
    a.equal b = false ∧ a.le b = false ∧ b.le a = false := by
  simp only [Bool.eq_false_iff, ne_eq, equal_iff_denotes, le_iff_atMost, AtMost]
  rcases h with rfl | rfl
  · exact ⟨fun ⟨_, ha, _⟩ => not_denotes_nan i ha, fun ⟨_, _, ha, _⟩ => not_denotes_nan i ha,
      fun ⟨_, _, _, ha, _⟩ => not_denotes_nan i ha⟩
  · exact ⟨fun ⟨_, _, hb⟩ => not_denotes_nan i hb, fun ⟨_, _, _, hb, _⟩ => not_denotes_nan i hb,
      fun ⟨_, _, hb, _⟩ => not_denotes_nan i hb⟩

theorem denotes_zero_iff : a.Denotes ((0 : ℚ) : WithTop ℚ) ↔ a.rank? = some (.real 0) := by
  rw [denotes_iff]
  constructor
  · rintro ⟨r, hr, hplace⟩
    have hzero : r.place = (Extended.real 0).place := hplace
    rw [hr, Extended.place_inj.mp hzero]
  · intro h
    exact ⟨_, h, rfl⟩

/-- The numbers that count as false are those that stand for zero. -/
theorem isTruthy_value : a.value.isTruthy = true ↔ ¬ a.Denotes ((0 : ℚ) : WithTop ℚ) := by
  rw [denotes_zero_iff]
  cases a <;> simp [value, Value.isTruthy, isZero]

end Number

/-! ## The checks -/

namespace Kind

variable {s : Surroundings} {fields : Value} {v b : Number}

theorem judge_equals_number :
    equals.judge s v.value b.value fields = .ok (some (v.equal b)) := by
  cases v <;> cases b <;> rfl

theorem judge_max_number :
    max.judge s v.value b.value fields = .ok (some (v.value.isTruthy && v.le b)) := by
  cases v <;> cases b <;> rfl

theorem judge_min_number :
    min.judge s v.value b.value fields = .ok (some (v.value.isTruthy && b.le v)) := by
  cases v <;> cases b <;> rfl

/-- The checks of two numbers compare what they stand for. They are equal if they stand for the same. A
number other than zero passes an upper bound if it is at most the bound, and a lower one if the bound is
at most the number. A result that is no number passes nothing, from either side. And a number that
passes an upper bound passes every one that is reached from it by going up, by numbers of whatever
kinds. -/
theorem numbers_compare_exactly (s : Surroundings) (fields : Value) (v b : Number) :
    (∃ p, equals.judge s v.value b.value fields = .ok (some p) ∧
      (p = true ↔ ∃ x, v.Denotes x ∧ b.Denotes x)) ∧
    (∃ p, max.judge s v.value b.value fields = .ok (some p) ∧
      (p = true ↔ ¬ v.Denotes ((0 : ℚ) : WithTop ℚ) ∧ v.AtMost b)) ∧
    (∃ p, min.judge s v.value b.value fields = .ok (some p) ∧
      (p = true ↔ ¬ v.Denotes ((0 : ℚ) : WithTop ℚ) ∧ b.AtMost v)) ∧
    (∀ i, v = .double (.nan i) ∨ b = .double (.nan i) → ∀ kind ∈ [equals, max, min],
      kind.judge s v.value b.value fields = .ok (some false)) ∧
    (∀ c, Relation.ReflTransGen Number.AtMost b c →
      max.judge s v.value b.value fields = .ok (some true) →
      max.judge s v.value c.value fields = .ok (some true)) := by
  have hmax : ∀ c, (v.value.isTruthy && v.le c) = true ↔
      ¬ v.Denotes ((0 : ℚ) : WithTop ℚ) ∧ v.AtMost c := fun c => by
    rw [Bool.and_eq_true, Number.isTruthy_value, Number.le_iff_atMost]
  refine ⟨⟨_, judge_equals_number, Number.equal_iff_denotes⟩, ⟨_, judge_max_number, hmax b⟩,
    ⟨_, judge_min_number, ?_⟩, ?_, ?_⟩
  · rw [Bool.and_eq_true, Number.isTruthy_value, Number.le_iff_atMost]
  · intro i hnan
    obtain ⟨hequal, hle, hge⟩ := Number.compares_nan hnan
    simp [judge_equals_number, judge_max_number, judge_min_number, hequal, hle, hge]
  · intro c hgrows
    simp only [judge_max_number, Except.ok.injEq, Option.some.injEq, hmax]
    rintro ⟨hzero, hle⟩
    refine ⟨hzero, ?_⟩
    induction hgrows with
    | refl => exact hle
    | tail _ hstep ih => exact ih.trans hstep

/-- The first whole number that is no double is not equal to the double before it, to which it would be
rounded. It is within itself as a bound, and so within the infinity that is reached from there by a
double and by a whole number that is larger than all doubles. What is no number is no bound. -/
theorem compare_beyond_doubles :
    equals.judge .silent (.int (2 ^ 53 + 1)) (.float (.finite (2 ^ 53))) .null =
        .ok (some false) ∧
      max.judge .silent (.int (2 ^ 53 + 1)) (.float (.infinity false)) .null =
        .ok (some true) ∧
      max.judge .silent (.int (2 ^ 53 + 1)) (.float (.nan 0)) .null =
        .ok (some false) := by
  have hcompare := numbers_compare_exactly .silent .null (.whole (2 ^ 53 + 1))
  refine ⟨?_, ?_, ?_⟩
  · obtain ⟨⟨p, hp, hiff⟩, -⟩ := hcompare (.double (.finite (2 ^ 53)))
    obtain rfl : p = false := by
      rw [Bool.eq_false_iff, ne_eq, hiff, ← Number.equal_iff_denotes]
      decide +kernel
    exact hp
  · obtain ⟨-, -, -, -, hgrows⟩ := hcompare (.whole (2 ^ 53 + 1))
    have hdouble : (Number.whole (2 ^ 53 + 1)).AtMost (.double (.finite (2 ^ 53 + 2))) :=
      Number.le_iff_atMost.mp (by decide +kernel)
    have hwhole : (Number.double (.finite (2 ^ 53 + 2))).AtMost (.whole ((10 ^ 200) ^ 2)) :=
      Number.le_iff_atMost.mp (by decide +kernel)
    have htop : (Number.whole ((10 ^ 200) ^ 2)).AtMost (.double (.infinity false)) :=
      Number.le_iff_atMost.mp rfl
    exact hgrows _ (((Relation.ReflTransGen.single hdouble).tail hwhole).tail htop) rfl
  · obtain ⟨-, -, -, hnan, -⟩ := hcompare (.double (.nan 0))
    exact hnan 0 (.inr rfl) max (by simp)

end Kind

end FieldRules
