import FieldRules.Calendar.Written
import FieldRules.Proofs.DecimalTexts
import FieldRules.Proofs.Gregorian
import Mathlib.Tactic.FinCases

/-!
# The numbers of a date in a layout

A layout takes the number of a day or of a month as long as it can: two digits if they write a number that a
day or a month can have, and one digit otherwise. What is left then begins with a digit. Neither a slash nor
the end of a text takes a digit, so before them a number is read if all of its digits are taken, and no
second way to take them has to be tried. That is why a text of three numbers with slashes between them is
read as just these numbers, in whichever order the layout has them.

## Main definitions

* `WritesNumber` — a text of so many digits of ASCII, and the number that it writes
* `TakesUpTo` — taking a number of one digit or two, up to the last one allowed

## Main statements

* `Layout.readFrom_day`, `Layout.readFrom_month`, `Layout.readFrom_year` — the numbers in a layout
-/

namespace FieldRules

open Text

/-- A text of digits of ASCII, between the least and the most that there may be, writes a number. -/
structure WritesNumber (least most n : Nat) (cs : List Char) : Prop where
  digits : ∀ c ∈ cs, c.isDigit = true
  least_le : least ≤ cs.length
  le_most : cs.length ≤ most
  value : Nat.ofDigitChars 10 cs 0 = n

instance {least most n : Nat} {cs : List Char} : Decidable (WritesNumber least most n cs) :=
  decidable_of_iff (cs.all Char.isDigit = true ∧ least ≤ cs.length ∧ cs.length ≤ most ∧
      Nat.ofDigitChars 10 cs 0 = n)
    ⟨fun ⟨hdigits, hleast, hmost, hvalue⟩ => ⟨List.all_eq_true.mp hdigits, hleast, hmost, hvalue⟩,
      fun h => ⟨List.all_eq_true.mpr h.digits, h.least_le, h.le_most, h.value⟩⟩

namespace WritesNumber

variable {least most n : Nat} {cs : List Char}

/-- Where one digit is enough there may be two. -/
theorem one_two (h : WritesNumber 2 2 n cs) : WritesNumber 1 2 n cs :=
  ⟨h.digits, Nat.le_of_succ_le h.least_le, h.le_most, h.value⟩

theorem length_eq {width : Nat} (h : WritesNumber width width n cs) : cs.length = width :=
  Nat.le_antisymm h.le_most h.least_le

/-- Texts of one digit or two are spelt out. -/
theorem cases_one_two (h : WritesNumber 1 2 n cs) :
    (∃ c, cs = [c] ∧ c.isDigit = true ∧ n = asciiValue c) ∨
      ∃ c d, cs = [c, d] ∧ c.isDigit = true ∧ d.isDigit = true ∧
        n = 10 * asciiValue c + asciiValue d := by
  have hdigits := h.digits
  have hvalue := h.value.symm
  have hlength : cs.length = 1 ∨ cs.length = 2 := by
    have hleast := h.least_le
    have hmost := h.le_most
    omega
  rcases hlength with hlength | hlength
  · obtain ⟨c, rfl⟩ := List.length_eq_one_iff.mp hlength
    exact .inl ⟨c, rfl, hdigits c (by simp), by simpa [asciiValue, Nat.ofDigitChars_cons] using hvalue⟩
  · obtain ⟨c, d, rfl⟩ := List.length_eq_two.mp hlength
    exact .inr ⟨c, d, rfl, hdigits c (by simp), hdigits d (by simp),
      by simpa [asciiValue, Nat.ofDigitChars_cons] using hvalue⟩

/-- Four digits write no number past the last year. -/
theorem le_lastYear (h : WritesNumber 4 4 n cs) : n ≤ lastYear := by
  obtain ⟨a, b, c, d, rfl⟩ := List.length_eq_four.mp h.length_eq
  have hnine : ∀ x ∈ [a, b, c, d], x.toNat - '0'.toNat ≤ 9 := by
    intro x hx
    have hdigit := (Char.isDigit_iff_toNat.mp (h.digits x hx)).2
    exact Nat.sub_le_of_le_add hdigit
  simp only [List.forall_mem_cons] at hnine
  have hvalue := h.value
  simp only [Nat.ofDigitChars_cons, Nat.ofDigitChars_nil] at hvalue
  simp only [lastYear]
  omega

end WritesNumber

/-! ## Numbers of one digit or two -/

/-- A number of one digit or two is taken from the start of a text: both digits if they write a number from
one to the last, else the first if it is no zero. -/
structure TakesUpTo (take? : List Char → Option (Nat × List Char)) (last : Nat) : Prop where
  nine_le : 9 ≤ last
  one : ∀ {c : Char} {rest : List Char}, c.isDigit = true → (∀ d ∈ rest.head?, isDigit d = false) →
    take? (c :: rest) = if 1 ≤ asciiValue c then some (asciiValue c, rest) else none
  two : ∀ {c d : Char} {rest : List Char}, c.isDigit = true → d.isDigit = true →
    take? (c :: d :: rest) =
      if 1 ≤ 10 * asciiValue c + asciiValue d ∧ 10 * asciiValue c + asciiValue d ≤ last then
        some (10 * asciiValue c + asciiValue d, rest)
      else if 1 ≤ asciiValue c then some (asciiValue c, d :: rest) else none

theorem asciiValue_le_nine {c : Char} (h : c.isDigit = true) : asciiValue c ≤ 9 :=
  Nat.sub_le_of_le_add (Char.isDigit_iff_toNat.mp h).2

theorem mem_digits {c : Char} (h : c.isDigit = true) :
    c ∈ ['0', '1', '2', '3', '4', '5', '6', '7', '8', '9'] :=
  mem_of_isDigit h

theorem isPositiveDigit_eq_false {c : Char} (h : isDigit c = false) : isPositiveDigit c = false := by
  rw [Bool.eq_false_iff]
  intro hpositive
  have hdigit : c.isDigit = true := by
    simp only [isPositiveDigit, Bool.and_eq_true, decide_eq_true_eq] at hpositive
    exact Char.isDigit_iff_toNat.mpr ⟨(by decide : '0'.toNat ≤ '1'.toNat).trans hpositive.1, hpositive.2⟩
  rw [isDigit_of_charIsDigit hdigit] at h
  cases h

theorem ne_of_not_isDigit {c d : Char} (hd : isDigit d = false) (hc : isDigit c = true) : d ≠ c := by
  rintro rfl
  rw [hc] at hd
  cases hd

theorem takesUpTo_takeDay? : TakesUpTo takeDay? 31 where
  nine_le := by decide
  one := by
    intro c rest hc hrest
    have hmem := mem_digits hc
    cases rest with
    | nil => fin_cases hmem <;> rfl
    | cons d rest =>
        have hd : isDigit d = false := hrest d rfl
        have hpositive := isPositiveDigit_eq_false hd
        have hvalue : digitValue? d = none := by simpa [isDigit] using hd
        have hzero : d ≠ '0' := ne_of_not_isDigit hd (by decide)
        have hone : d ≠ '1' := ne_of_not_isDigit hd (by decide)
        fin_cases hmem <;> simp [takeDay?, hpositive, hvalue, hzero, hone] <;> rfl
  two := by
    intro c d rest hc hd
    have hmem := mem_digits hc
    have hmem' := mem_digits hd
    fin_cases hmem <;> fin_cases hmem' <;> rfl

theorem takesUpTo_takeMonth? : TakesUpTo takeMonth? 12 where
  nine_le := by decide
  one := by
    intro c rest hc hrest
    have hmem := mem_digits hc
    cases rest with
    | nil => fin_cases hmem <;> rfl
    | cons d rest =>
        have hd : isDigit d = false := hrest d rfl
        have hpositive := isPositiveDigit_eq_false hd
        have hzero : d ≠ '0' := ne_of_not_isDigit hd (by decide)
        have hone : d ≠ '1' := ne_of_not_isDigit hd (by decide)
        have htwo : d ≠ '2' := ne_of_not_isDigit hd (by decide)
        fin_cases hmem <;> simp [takeMonth?, hpositive, hzero, hone, htwo] <;> rfl
  two := by
    intro c d rest hc hd
    have hmem := mem_digits hc
    have hmem' := mem_digits hd
    fin_cases hmem <;> fin_cases hmem' <;> rfl

variable {take? : List Char → Option (Nat × List Char)} {last n : Nat} {cs rest : List Char}

/-- Before what takes no digit a number is taken whole or not at all. -/
theorem TakesUpTo.bind_eq {β : Type} {next : Nat × List Char → Option β} (h : TakesUpTo take? last)
    (hcs : WritesNumber 1 2 n cs)
    (hstop : ∀ m d more, d.isDigit = true → next (m, d :: more) = none)
    (hrest : ∀ d ∈ rest.head?, isDigit d = false) :
    (take? (cs ++ rest)).bind next = if 1 ≤ n ∧ n ≤ last then next (n, rest) else none := by
  have hnine := h.nine_le
  rcases hcs.cases_one_two with ⟨c, rfl, hc, rfl⟩ | ⟨c, d, rfl, hc, hd, rfl⟩
  · have hle := asciiValue_le_nine hc
    rw [List.singleton_append, h.one hc hrest]
    by_cases hpos : 1 ≤ asciiValue c
    · have hboth : 1 ≤ asciiValue c ∧ asciiValue c ≤ last := ⟨hpos, by omega⟩
      rw [if_pos hpos, if_pos hboth, Option.bind_some]
    · have hnot : ¬ (1 ≤ asciiValue c ∧ asciiValue c ≤ last) := by omega
      rw [if_neg hpos, if_neg hnot, Option.bind_none]
  · rw [List.cons_append, List.singleton_append, h.two hc hd]
    by_cases hboth : 1 ≤ 10 * asciiValue c + asciiValue d ∧ 10 * asciiValue c + asciiValue d ≤ last
    · rw [if_pos hboth, if_pos hboth, Option.bind_some]
    · -- The first digit may still be taken alone, but then the second is left to what follows.
      rw [if_neg hboth, if_neg hboth]
      by_cases hpos : 1 ≤ asciiValue c
      · rw [if_pos hpos, Option.bind_some, hstop _ _ _ hd]
      · rw [if_neg hpos, Option.bind_none]

/-- Of three digits at least one is left over. -/
theorem TakesUpTo.bind_eq_none {β : Type} {next : Nat × List Char → Option β} {a b c : Char}
    (h : TakesUpTo take? last) (ha : a.isDigit = true) (hb : b.isDigit = true) (hc : c.isDigit = true)
    (hstop : ∀ m d more, d.isDigit = true → next (m, d :: more) = none) :
    (take? (a :: b :: c :: rest)).bind next = none := by
  rw [h.two ha hb]
  split
  · rw [Option.bind_some, hstop _ _ _ hc]
  · split
    · rw [Option.bind_some, hstop _ _ _ hb]
    · rfl

theorem takeYear?_eq (hcs : WritesNumber 4 4 n cs) : takeYear? (cs ++ rest) = some (n, rest) := by
  have hlength := hcs.length_eq
  have hnumber : natOfDigits? cs = some n := by
    rw [natOfDigits?, natOfDigitsFrom?_of_isDigit hcs.digits, hcs.value]
  have hlong : ¬ (cs ++ rest).length < 4 := by
    rw [List.length_append]
    omega
  rw [takeYear?, if_neg hlong, List.take_left' hlength, List.drop_left' hlength, hnumber, Option.map_some]

/-! ## Numbers in a layout -/

namespace Layout

variable {found : DateNumbers} {parts : Layout}

/-- What follows in a layout cannot begin with a digit. -/
def RefusesDigits (parts : Layout) : Prop :=
  ∀ found d rest, d.isDigit = true → readFrom found parts (d :: rest) = none

theorem refusesDigits_nil : RefusesDigits [] := by
  intro found d rest hd
  rfl

theorem refusesDigits_char {c : Char} (hc : c.isDigit = false) : RefusesDigits (.char c :: parts) := by
  intro found d rest hd
  have hne : d ≠ c := ne_of_isDigit hd hc
  simp [readFrom, hne]

theorem readFrom_char (c : Char) :
    readFrom found (.char c :: parts) (c :: rest) = readFrom found parts rest := by
  simp [readFrom]

/-- No digit comes before a slash does. -/
theorem isDigit_of_head?_slash (rest : List Char) : ∀ d ∈ ('/' :: rest).head?, isDigit d = false := by
  rintro d ⟨⟩
  rfl

theorem readFrom_day (hcs : WritesNumber 1 2 n cs) (hstop : RefusesDigits parts)
    (hrest : ∀ d ∈ rest.head?, isDigit d = false) : readFrom found (.day :: parts) (cs ++ rest) =
      if 1 ≤ n ∧ n ≤ 31 then readFrom { found with day := n } parts rest else none := by
  rw [readFrom]
  exact takesUpTo_takeDay?.bind_eq hcs (fun _ d more => hstop _ d more) hrest

theorem readFrom_month (hcs : WritesNumber 1 2 n cs) (hstop : RefusesDigits parts)
    (hrest : ∀ d ∈ rest.head?, isDigit d = false) : readFrom found (.month :: parts) (cs ++ rest) =
      if 1 ≤ n ∧ n ≤ 12 then readFrom { found with month := n } parts rest else none := by
  rw [readFrom]
  exact takesUpTo_takeMonth?.bind_eq hcs (fun _ d more => hstop _ d more) hrest

theorem readFrom_month_eq_none {a b c : Char} (ha : a.isDigit = true) (hb : b.isDigit = true)
    (hc : c.isDigit = true) (hstop : RefusesDigits parts) :
    readFrom found (.month :: parts) (a :: b :: c :: rest) = none := by
  rw [readFrom]
  exact takesUpTo_takeMonth?.bind_eq_none ha hb hc (fun _ d more => hstop _ d more)

theorem readFrom_year (hcs : WritesNumber 4 4 n cs) :
    readFrom found (.year :: parts) (cs ++ rest) = readFrom { found with year := n } parts rest := by
  rw [readFrom, takeYear?_eq hcs, Option.bind_some]

theorem readFrom_year_end (hcs : WritesNumber 4 4 n cs) :
    readFrom found [.year] cs = some { found with year := n } := by
  have hread : readFrom found [.year] (cs ++ []) = some { found with year := n } := readFrom_year hcs
  rwa [List.append_nil] at hread

theorem readFrom_day_end (hcs : WritesNumber 1 2 n cs) :
    readFrom found [.day] cs = if 1 ≤ n ∧ n ≤ 31 then some { found with day := n } else none := by
  have hread : readFrom found [.day] (cs ++ []) =
      if 1 ≤ n ∧ n ≤ 31 then some { found with day := n } else none :=
    readFrom_day hcs refusesDigits_nil (by simp)
  rwa [List.append_nil] at hread

/-- Bounds that the numbers of every date keep are no more than what a day is asked for. -/
theorem bind_make? {p q : Prop} [Decidable p] [Decidable q] {numbers : DateNumbers}
    (h : IsDate numbers.year numbers.month numbers.day → p ∧ q) :
    (if p then if q then some numbers else none else none).bind
        (fun n => Day.make? n.year n.month n.day) =
      Day.make? numbers.year numbers.month numbers.day := by
  by_cases hdate : IsDate numbers.year numbers.month numbers.day
  · obtain ⟨hp, hq⟩ := h hdate
    rw [if_pos hp, if_pos hq, Option.bind_some]
  · by_cases hp : p <;> by_cases hq : q <;> simp [hp, hq, Day.make?_eq_none hdate]

end Layout

end FieldRules
