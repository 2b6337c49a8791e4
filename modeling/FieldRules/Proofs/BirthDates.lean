import FieldRules.Proofs.CharacterRuns
import FieldRules.Proofs.DateNumbers
import FieldRules.Proofs.EmptyValues

/-!
# Dates of birth and ages

A date of birth passes two readers. The shape asks for digits of ASCII and for slashes, and knows nothing of
the calendar; the layout takes the numbers, with a wider idea of what a digit is. What passes both is a text
of three numbers that are a date, and every such text does: the layout has no other way to read it than the
shape has.

The rule about age never counts years. It moves the date of birth forward and asks whether that day has come,
which is the same but for those born on the 29th of February: where that day is missing, they are old enough
one day earlier than their age in years says.

## Main definitions

* `WritesBirthDate` — a text of three numbers, and which ones
* `Value.IsBirthDate` — the values that are dates of birth

## Main statements

* `birthDay?_eq_make?`, `exists_writes_of_birthDay?` — the day that a text writes
* `Kind.birth_dates_decided` — what the rule about dates of birth says of each value
* `Kind.ages_decided` — what the rule about age says of the same values
-/

namespace FieldRules

open Text

variable {year month day : Nat} {cs : List Char}

/-- A text has a day and a month of one digit or two and a year of four, with slashes between them. -/
def WritesBirthDate (year month day : Nat) (cs : List Char) : Prop :=
  ∃ ds ms ys, cs = ds ++ '/' :: (ms ++ '/' :: ys) ∧
    WritesNumber 1 2 day ds ∧ WritesNumber 1 2 month ms ∧ WritesNumber 4 4 year ys

/-- A value is a text that writes a date. -/
def Value.IsBirthDate (v : Value) : Prop :=
  ∃ s year month day, v = .text s ∧ WritesBirthDate year month day s.toList ∧ IsDate year month day

/-! ## The shape -/

theorem describes_birthDayShape_iff : Shape.Describes birthDayShape cs ↔
    ∃ ds ms ys, cs = ds ++ '/' :: (ms ++ '/' :: ys) ∧
      (1 ≤ ds.length ∧ ds.length ≤ 2 ∧ ∀ c ∈ ds, c.isDigit = true) ∧
      (1 ≤ ms.length ∧ ms.length ≤ 2 ∧ ∀ c ∈ ms, c.isDigit = true) ∧
      ys.length = 4 ∧ ∀ c ∈ ys, c.isDigit = true := by
  simp only [birthDayShape, Shape.all, Shape.describes_seq_iff, Shape.describes_between_one_iff,
    Shape.describes_times_one_iff, Shape.describes_literal_iff, Shape.describes_empty_iff,
    has_asciiDigits_eq]
  constructor
  · rintro ⟨ds, _, rfl, hds, _, _, rfl, rfl, ms, _, rfl, hms, _, _, rfl, rfl, ys, _, rfl, hys, rfl⟩
    exact ⟨ds, ms, ys, by simp, hds, hms, hys⟩
  · rintro ⟨ds, ms, ys, rfl, hds, hms, hys⟩
    exact ⟨ds, _, rfl, hds, ['/'], _, rfl, rfl, ms, _, rfl, hms, ['/'], ys, rfl, rfl, ys, [], by simp,
      hys, rfl⟩

/-- The shape of a date of birth describes the texts of three numbers, whatever the numbers are. -/
theorem birthDayShape_fits_iff :
    birthDayShape.fits cs = true ↔ ∃ year month day, WritesBirthDate year month day cs := by
  rw [Shape.fits_iff, describes_birthDayShape_iff]
  constructor
  · rintro ⟨ds, ms, ys, rfl, ⟨hds, hds', hdsAll⟩, ⟨hms, hms', hmsAll⟩, hys, hysAll⟩
    exact ⟨_, _, _, ds, ms, ys, rfl, ⟨hdsAll, hds, hds', rfl⟩, ⟨hmsAll, hms, hms', rfl⟩,
      ⟨hysAll, hys.ge, hys.le, rfl⟩⟩
  · rintro ⟨year, month, day, ds, ms, ys, rfl, hday, hmonth, hyear⟩
    exact ⟨ds, ms, ys, rfl, ⟨hday.least_le, hday.le_most, hday.digits⟩,
      ⟨hmonth.least_le, hmonth.le_most, hmonth.digits⟩, hyear.length_eq, hyear.digits⟩

/-! ## The layout -/

theorem WritesBirthDate.le_lastYear (h : WritesBirthDate year month day cs) : year ≤ lastYear := by
  obtain ⟨ds, ms, ys, -, -, -, hyear⟩ := h
  exact hyear.le_lastYear

/-- The numbers are read in their order, and make a day if they are a date. -/
theorem Layout.read?_dayFirst (h : WritesBirthDate year month day cs) :
    dayFirst.read? cs = Day.make? year month day := by
  obtain ⟨ds, ms, ys, rfl, hday, hmonth, hyear⟩ := h
  rw [read?, dayFirst, readFrom_day hday (refusesDigits_char rfl) (isDigit_of_head?_slash _),
    readFrom_char, readFrom_month hmonth (refusesDigits_char rfl) (isDigit_of_head?_slash _),
    readFrom_char, readFrom_year_end hyear]
  exact bind_make? fun hdate => ⟨hdate.day_bounds, hdate.month_bounds⟩

theorem birthDay?_eq_make? (h : WritesBirthDate year month day cs) :
    birthDay? cs = Day.make? year month day := by
  have hfits : birthDayShape.fits cs = true := birthDayShape_fits_iff.mpr ⟨year, month, day, h⟩
  rw [birthDay?, if_pos hfits, Layout.read?_dayFirst h]

theorem exists_writes_of_birthDay? {born : Day} (h : birthDay? cs = some born) :
    ∃ year month day, WritesBirthDate year month day cs := by
  unfold birthDay? at h
  split at h
  · exact birthDayShape_fits_iff.mp ‹_›
  · cases h

theorem birthDay?_isSome_iff :
    (birthDay? cs).isSome ↔
      ∃ year month day, WritesBirthDate year month day cs ∧ IsDate year month day := by
  constructor
  · intro h
    obtain ⟨born, hborn⟩ := Option.isSome_iff_exists.mp h
    obtain ⟨year, month, day, hwrites⟩ := exists_writes_of_birthDay? hborn
    rw [birthDay?_eq_make? hwrites, Day.isSome_make?, isDay_iff] at h
    exact ⟨year, month, day, hwrites, h.2⟩
  · intro ⟨year, month, day, hwrites, hdate⟩
    rw [birthDay?_eq_make? hwrites, Day.isSome_make?, isDay_iff]
    exact ⟨hwrites.le_lastYear, hdate⟩

namespace Value

variable {v : Value}

theorem birthDay?_isSome_iff : v.birthDay?.isSome ↔ v.IsBirthDate := by
  cases v with
  | text s => simp [birthDay?, IsBirthDate, FieldRules.birthDay?_isSome_iff]
  | _ => simp [birthDay?, IsBirthDate]

/-- A date of birth is not empty. -/
theorem IsBirthDate.isTruthy (h : v.IsBirthDate) : v.isTruthy = true := by
  obtain ⟨born, hborn⟩ := Option.isSome_iff_exists.mp (birthDay?_isSome_iff.mpr h)
  exact Kind.isTruthy_of_birthDay? hborn

end Value

/-! ## The rules -/

namespace Kind

variable {s : Surroundings} {value given fields : Value}

theorem judge_dateOfBirth_eq_true_iff :
    dateOfBirth.judge s value given fields = .ok (some true) ↔ value.IsBirthDate := by
  rw [← Value.birthDay?_isSome_iff]
  constructor
  · intro h
    cases htruthy : value.isTruthy <;> simp_all [judge, unlessEmpty, Value.isFalsy, Except.map]
  · intro h
    have htruthy := (Value.birthDay?_isSome_iff.mp h).isTruthy
    simp [judge, unlessEmpty, Value.isFalsy, htruthy, h, Except.map]

/-- A value is a date of birth, it is empty and nothing is decided, or it is refused: these are texts of
other characters, of too many or too few digits, or with white space around them, as well as days that
the calendar does not have, and every value that is no text. -/
theorem birth_dates_decided (s : Surroundings) (value given fields : Value) :
    (dateOfBirth.judge s value given fields = .ok (some true) ↔ value.IsBirthDate) ∧
    (dateOfBirth.judge s value given fields = .ok none ↔ value.IsEmpty) ∧
    (dateOfBirth.judge s value given fields = .ok (some false) ↔
      ¬ value.IsBirthDate ∧ ¬ value.IsEmpty) := by
  have hyes : dateOfBirth.judge s value given fields = .ok (some true) ↔ value.IsBirthDate :=
    judge_dateOfBirth_eq_true_iff
  have hnone : dateOfBirth.judge s value given fields = .ok none ↔ value.IsEmpty := by
    simp [judge_eq_none_iff, undecidedOnEmpty]
  have hanswer : ∃ verdict, dateOfBirth.judge s value given fields = .ok verdict := by
    cases htruthy : value.isTruthy <;> simp [judge, unlessEmpty, Value.isFalsy, htruthy, Except.map]
  obtain ⟨verdict, hverdict⟩ := hanswer
  refine ⟨hyes, hnone, ?_⟩
  rw [← hyes, ← hnone, hverdict]
  rcases verdict with _ | (_ | _) <;> simp

/-- Who was born on a day that the calendar reaches sixteen years later is old enough if so many years have
gone by, or if the day itself is missing and today is the eve of it. -/
theorem judge_over16_of_birthDay? {born : Day} (hborn : value.birthDay? = some born)
    (hlast : born.year + leastAge ≤ lastYear) :
    ∃ b, over16.judge s value given fields = .ok (some b) ∧
      (b = true ↔ HasCompleted leastAge born.year born.month born.day s.today ∨
        IsEveOf leastAge born.year born.month born.day s.today) := by
  obtain ⟨day, hday, hiff⟩ := born.exists_addYears? s.today hlast
  refine ⟨day.le s.today, ?_, hiff⟩
  have htruthy := isTruthy_of_birthDay? hborn
  simp [judge, unlessEmpty, Value.isFalsy, htruthy, judgeAge, hborn, hday, Except.map]

/-- The rule about age tells of a date of birth, sixteen years or more before the end of the calendar, whether
sixteen years have gone by since; for those born on a 29th of February that is missing, already on its
eve. Whatever the rule about dates of birth refuses, it refuses as well. -/
theorem ages_decided (s : Surroundings) (value given fields : Value) :
    (∀ t year month day, value = .text t → WritesBirthDate year month day t.toList →
      dateOfBirth.judge s value given fields = .ok (some true) → year ≤ 9983 →
      ∃ b, over16.judge s value given fields = .ok (some b) ∧
        (b = true ↔ HasCompleted 16 year month day s.today ∨ IsEveOf 16 year month day s.today)) ∧
    (dateOfBirth.judge s value given fields = .ok (some false) →
      over16.judge s value given fields = .ok (some false)) := by
  constructor
  · intro t year month day htext hwrites haccepted hyear
    subst htext
    have hsome := Value.birthDay?_isSome_iff.mpr (judge_dateOfBirth_eq_true_iff.mp haccepted)
    obtain ⟨born, hborn⟩ := Option.isSome_iff_exists.mp hsome
    have hmake : Day.make? year month day = some born := by
      rw [← birthDay?_eq_make? hwrites]
      exact hborn
    obtain ⟨rfl, rfl, rfl⟩ := Day.eq_of_make? hmake
    exact judge_over16_of_birthDay? hborn (Nat.add_le_add_right hyear leastAge)
  · intro hrefused
    cases htruthy : value.isTruthy
    · simp [judge, unlessEmpty, Value.isFalsy, htruthy] at hrefused
    · cases hborn : value.birthDay?
      · simp [judge, unlessEmpty, Value.isFalsy, htruthy, judgeAge, hborn, Except.map]
      · simp [judge, unlessEmpty, Value.isFalsy, htruthy, hborn, Except.map] at hrefused

/-- Someone born on the 29th of February 2084 is old enough on the 28th of February 2100, which has no 29th;
and a 31st of February is refused as a date of birth and for the age. -/
theorem ages_decided_missing_day :
    over16.judge (.silentOn ⟨2100, 2, 28, rfl⟩) (.text "29/2/2084") .null .null = .ok (some true) ∧
      over16.judge (.silentOn ⟨2100, 2, 28, rfl⟩) (.text "31/2/2000") .null .null = .ok (some false) := by
  have hwrites : WritesBirthDate 2084 2 29 "29/2/2084".toList :=
    ⟨['2', '9'], ['2'], ['2', '0', '8', '4'], rfl, by decide, by decide, by decide⟩
  have haccepted : dateOfBirth.judge (.silentOn ⟨2100, 2, 28, rfl⟩) (.text "29/2/2084") .null .null =
      .ok (some true) :=
    judge_dateOfBirth_eq_true_iff.mpr ⟨_, 2084, 2, 29, rfl, hwrites, (isDay_iff.mp rfl).2⟩
  have hrefused : dateOfBirth.judge (.silentOn ⟨2100, 2, 28, rfl⟩) (.text "31/2/2000") .null .null =
      .ok (some false) := by
    have hnone : (Value.text "31/2/2000").birthDay? = none := by decide +kernel
    rw [judge, hnone]
    rfl
  obtain ⟨hage, -⟩ := ages_decided (.silentOn ⟨2100, 2, 28, rfl⟩) (.text "29/2/2084") .null .null
  obtain ⟨-, hno⟩ := ages_decided (.silentOn ⟨2100, 2, 28, rfl⟩) (.text "31/2/2000") .null .null
  obtain ⟨b, hb, hiff⟩ := hage _ 2084 2 29 rfl hwrites haccepted (by decide)
  have hleap : ¬ IsLeap 2100 := by
    rw [← isLeapYear_iff]
    decide
  obtain rfl : b = true := hiff.mpr (.inr ⟨rfl, rfl, hleap, rfl, rfl, rfl⟩)
  exact ⟨hb, hno hrefused⟩

end Kind

end FieldRules
