import FieldRules.Proofs.Limits

/-!
# The rules of the calendar

What makes three numbers a date is told here by the lengths of the months, one rule for each group of
months, and without the first and the last year that days can be made of. A date moved to a later year is a
date again, with one exception: the 29th of February in a year that is no leap year, which becomes the day
before. So whether someone has lived for so many years can be told from the numbers of two days, and only
one day of the calendar needs a clause of its own.

## Main definitions

* `IsLeap`, `MonthLength`, `IsDate` — the rules of the calendar
* `HasCompleted` — whether so many years have gone by since a date
* `IsEveOf` — today is the last of February, and the 29th is missing this year

## Main statements

* `isDay_iff` — the numbers of a day
* `Day.exists_addYears?` — the day some years after another, compared with today
-/

namespace FieldRules

/-- Every fourth year is a leap year, but of the centuries only those that 400 divides. -/
def IsLeap (year : Nat) : Prop :=
  4 ∣ year ∧ (100 ∣ year → 400 ∣ year)

/-- The months of a year and how many days they have. -/
inductive MonthLength (year : Nat) : Nat → Nat → Prop
  | long {month : Nat} (h : month ∈ [1, 3, 5, 7, 8, 10, 12]) : MonthLength year month 31
  | short {month : Nat} (h : month ∈ [4, 6, 9, 11]) : MonthLength year month 30
  | february (h : ¬ IsLeap year) : MonthLength year 2 28
  | leapFebruary (h : IsLeap year) : MonthLength year 2 29

/-- The numbers are a year from 1 on, a month, and a day of that month. -/
structure IsDate (year month day : Nat) : Prop where
  year_pos : 1 ≤ year
  day_pos : 1 ≤ day
  exists_length : ∃ length, MonthLength year month length ∧ day ≤ length

variable {year month day length years : Nat}

theorem isLeapYear_iff : isLeapYear year = true ↔ IsLeap year := by
  simp only [isLeapYear, IsLeap, Bool.and_eq_true, Bool.or_eq_true, decide_eq_true_eq, bne_iff_ne]
  omega

/-- The months are numbered from 1 to 12. -/
theorem monthLength_iff :
    MonthLength year month length ↔ 1 ≤ month ∧ month ≤ 12 ∧ length = daysInMonth year month := by
  constructor
  · intro h
    cases h with
    | long h =>
        simp only [List.mem_cons, List.not_mem_nil, or_false] at h
        rcases h with rfl | rfl | rfl | rfl | rfl | rfl | rfl <;> simp [daysInMonth]
    | short h =>
        simp only [List.mem_cons, List.not_mem_nil, or_false] at h
        rcases h with rfl | rfl | rfl | rfl <;> simp [daysInMonth]
    | february h => simp [daysInMonth, isLeapYear_iff, h]
    | leapFebruary h => simp [daysInMonth, isLeapYear_iff, h]
  · rintro ⟨hlow, hhigh, rfl⟩
    by_cases hfebruary : month = 2
    · subst hfebruary
      by_cases hleap : IsLeap year
      · simpa [daysInMonth, isLeapYear_iff, hleap] using MonthLength.leapFebruary hleap
      · simpa [daysInMonth, isLeapYear_iff, hleap] using MonthLength.february hleap
    · by_cases hshort : month ∈ [4, 6, 9, 11]
      · have hlength : daysInMonth year month = 30 := by
          simp only [List.mem_cons, List.not_mem_nil, or_false] at hshort
          rcases hshort with rfl | rfl | rfl | rfl <;> rfl
        rw [hlength]
        exact .short hshort
      · have hlength : daysInMonth year month = 31 := by simp_all [daysInMonth]
        rw [hlength]
        refine .long ?_
        simp only [List.mem_cons, List.not_mem_nil, or_false] at hshort ⊢
        omega

/-- Days are made of the dates up to the last year. -/
theorem isDay_iff : isDay year month day = true ↔ year ≤ lastYear ∧ IsDate year month day := by
  have hdate : IsDate year month day ↔
      1 ≤ year ∧ 1 ≤ day ∧ 1 ≤ month ∧ month ≤ 12 ∧ day ≤ daysInMonth year month := by
    constructor
    · intro h
      obtain ⟨length, hlength, hday⟩ := h.exists_length
      obtain ⟨hlow, hhigh, rfl⟩ := monthLength_iff.mp hlength
      exact ⟨h.year_pos, h.day_pos, hlow, hhigh, hday⟩
    · intro ⟨hyear, hpos, hlow, hhigh, hday⟩
      exact ⟨hyear, hpos, _, monthLength_iff.mpr ⟨hlow, hhigh, rfl⟩, hday⟩
  simp only [isDay, Bool.and_eq_true, decide_eq_true_eq, hdate]
  omega

theorem Day.isDate (d : Day) : IsDate d.year d.month d.day :=
  (isDay_iff.mp d.valid).2

theorem IsDate.month_bounds (h : IsDate year month day) : 1 ≤ month ∧ month ≤ 12 := by
  obtain ⟨length, hlength, -⟩ := h.exists_length
  obtain ⟨hlow, hhigh, -⟩ := monthLength_iff.mp hlength
  exact ⟨hlow, hhigh⟩

theorem IsDate.day_bounds (h : IsDate year month day) : 1 ≤ day ∧ day ≤ 31 := by
  obtain ⟨length, hlength, hday⟩ := h.exists_length
  have hlong : length ≤ 31 := by
    cases hlength <;> omega
  exact ⟨h.day_pos, Nat.le_trans hday hlong⟩

/-- A date is one in every other year, the 29th of February aside. -/
theorem IsDate.of_year {later : Nat} (h : IsDate year month day) (hpos : 1 ≤ later) :
    IsDate later month day ∨ (month = 2 ∧ day = 29 ∧ ¬ IsLeap later) := by
  obtain ⟨length, hlength, hday⟩ := h.exists_length
  cases hlength with
  | long hmonth => exact .inl ⟨hpos, h.day_pos, 31, .long hmonth, hday⟩
  | short hmonth => exact .inl ⟨hpos, h.day_pos, 30, .short hmonth, hday⟩
  | february | leapFebruary =>
      by_cases hleap : IsLeap later
      · exact .inl ⟨hpos, h.day_pos, 29, .leapFebruary hleap, by omega⟩
      · by_cases hlast : day ≤ 28
        · exact .inl ⟨hpos, h.day_pos, 28, .february hleap, hlast⟩
        · exact .inr ⟨rfl, by omega, hleap⟩

theorem not_isDate_of_not_isLeap (h : ¬ IsLeap year) : ¬ IsDate year 2 29 := by
  intro hdate
  obtain ⟨length, hlength, hday⟩ := hdate.exists_length
  obtain ⟨-, -, rfl⟩ := monthLength_iff.mp hlength
  simp [daysInMonth, isLeapYear_iff, h] at hday

/-! ## Years gone by -/

/-- So many years have gone by since a date: more than so many by their numbers alone, or just as many, and
the day of the year has come. -/
def HasCompleted (years year month day : Nat) (today : Day) : Prop :=
  year + years < today.year ∨
    (today.year = year + years ∧
      (month < today.month ∨ (today.month = month ∧ day ≤ today.day)))

/-- The date is a 29th of February that so many years later is missing, and today is the day before. -/
def IsEveOf (years year month day : Nat) (today : Day) : Prop :=
  month = 2 ∧ day = 29 ∧ ¬ IsLeap (year + years) ∧
    today.year = year + years ∧ today.month = 2 ∧ today.day = 28

namespace Day

theorem le_iff (a b : Day) : a.le b = true ↔ HasCompleted 0 a.year a.month a.day b := by
  simp only [le, HasCompleted, Bool.or_eq_true, Bool.and_eq_true, decide_eq_true_eq, Nat.add_zero]
  omega

theorem isSome_make? : (make? year month day).isSome = isDay year month day :=
  Bool.eq_iff_iff.mpr (isSome_make?_iff year month day)

/-- Numbers that are a date are made into the day that has them. -/
theorem exists_make? (hlast : year ≤ lastYear) (h : IsDate year month day) :
    ∃ d, make? year month day = some d ∧ d.year = year ∧ d.month = month ∧ d.day = day :=
  ⟨⟨year, month, day, isDay_iff.mpr ⟨hlast, h⟩⟩, dif_pos _, rfl, rfl, rfl⟩

theorem eq_of_make? {d : Day} (h : make? year month day = some d) :
    d.year = year ∧ d.month = month ∧ d.day = day := by
  unfold make? at h
  split at h
  · obtain rfl := Option.some.inj h
    exact ⟨rfl, rfl, rfl⟩
  · cases h

theorem make?_eq_none (h : ¬ IsDate year month day) : make? year month day = none := by
  rw [← Option.not_isSome_iff_eq_none, isSome_make?, isDay_iff]
  intro hday
  exact h hday.2

/-- Up to the end of the calendar there is a day so many years after another one, and it has come exactly if
these years have gone by, or if the day itself is missing and today is the eve of it. -/
theorem exists_addYears? (born today : Day) (hlast : born.year + years ≤ lastYear) :
    ∃ day, born.addYears? years = some day ∧
      (day.le today = true ↔ HasCompleted years born.year born.month born.day today ∨
        IsEveOf years born.year born.month born.day today) := by
  have hpos : 1 ≤ born.year + years := Nat.le_add_right_of_le born.isDate.year_pos
  by_cases hdate : IsDate (born.year + years) born.month born.day
  · obtain ⟨day, hmake, hyear, hmonth, hday⟩ := exists_make? hlast hdate
    have hnot : ¬ IsEveOf years born.year born.month born.day today := by
      intro ⟨hfebruary, hlastDay, hleap, _⟩
      rw [hfebruary, hlastDay] at hdate
      exact not_isDate_of_not_isLeap hleap hdate
    refine ⟨day, by simp [addYears?, hmake], ?_⟩
    simp [le_iff, HasCompleted, hnot, hyear, hmonth, hday]
  · -- Only the 29th of February can be missing, and the 28th never is.
    obtain ⟨hfebruary, hlastDay, hleap⟩ := (born.isDate.of_year hpos).resolve_left hdate
    have hbefore : IsDate (born.year + years) born.month 28 := by
      rw [hfebruary]
      exact ⟨hpos, by omega, 28, .february hleap, by omega⟩
    obtain ⟨day, hmake, hyear, hmonth, hday⟩ := exists_make? hlast hbefore
    refine ⟨day, by simp [addYears?, make?_eq_none hdate, hmake], ?_⟩
    simp only [le_iff, HasCompleted, IsEveOf, hyear, hmonth, hday, hfebruary, hlastDay, hleap,
      not_false_eq_true, true_and]
    omega

end Day

end FieldRules
