import FieldRules.Check.Judgement
import FieldRules.Proofs.Nesting

/-!
# Where the built-in checks come to no answer

Nearly every check answers for every value and all options. Five of them have limits. A mail date
may hold numbers that no date is made from; someone may be born so late that the calendar ends before
they are old enough; and where a value is compared with another one, with one of several or with that of
another field, both may lie too deep for the stack. The limits are stated here in terms of the numbers
themselves and of where the stack ends, and it is shown that the checks fail there and nowhere else.

Only the comparison with another field looks at the other fields at all, and only at the one that it
names.

## Main definitions

* `Mail.Words.IsTooLarge`, `IsTooLargeDate` — dates with numbers that are too large
* `Kind.FailsWith` — the values on which a check has no answer, and why

## Main statements

* `Kind.judge_eq_error_iff` — the checks fail at these values and nowhere else
* `Kind.judge_congr` — what a check reads of the other fields
-/

namespace FieldRules

/-! ## Dates -/

namespace Mail

/-- The distance of a zone from universal time, counted in days and rounded down, is more than
`mostDays`. -/
def IsFarZone (seconds : Int) : Prop :=
  seconds < -86400 * mostDays ∨ 86400 * (mostDays + 1) ≤ seconds

/-- The words of a date are numbers, but one of them is too large to be looked up in the calendar: the
zone, or a number that no signed word of 32 bits holds beside a zone of less than a day. -/
def Words.IsTooLarge (w : Words) : Prop :=
  ∃ h m s year day hour minute second,
    splitTime w.time = some (h, m, s) ∧ readWhole? w.year = some year ∧
    readWhole? w.day = some day ∧ readWhole? h = some hour ∧ readWhole? m = some minute ∧
    readWhole? s = some second ∧
    ((∃ zone, zoneSeconds? w.zone = some zone ∧ IsFarZone zone) ∨
      ((∀ zone, zoneSeconds? w.zone = some zone → -86400 < zone ∧ zone < 86400) ∧
        ∃ n ∈ [fullYear year, (w.month : Int), day, hour, minute, second],
          n < -0x80000000 ∨ 0x80000000 ≤ n))

theorem checkZone_eq_tooLarge_iff (seconds : Int) :
    checkZone seconds = .tooLarge ↔ IsFarZone seconds := by
  have hdays : seconds.fdiv 86400 = seconds / 86400 := Int.fdiv_eq_ediv_of_nonneg _ (by decide)
  have hfar : IsFarZone seconds ↔
      seconds / 86400 < -mostDays ∨ mostDays < seconds / 86400 := by
    simp only [IsFarZone, mostDays]
    omega
  simp only [checkZone, hdays, hfar, Bool.or_eq_true, decide_eq_true_eq]
  by_cases h : seconds / 86400 < -mostDays ∨ mostDays < seconds / 86400
  · simp [h]
  · rw [if_neg h]
    split <;> simp [h]

theorem checkZone_eq_accepted_iff (seconds : Int) :
    checkZone seconds = .accepted ↔ -86400 < seconds ∧ seconds < 86400 := by
  have hdays : seconds.fdiv 86400 = seconds / 86400 := Int.fdiv_eq_ediv_of_nonneg _ (by decide)
  simp only [checkZone, hdays, Bool.or_eq_true, Bool.and_eq_true, decide_eq_true_eq]
  by_cases h : seconds / 86400 < -mostDays ∨ mostDays < seconds / 86400
  · have hnot : ¬ (-86400 < seconds ∧ seconds < 86400) := by
      simp only [mostDays] at h
      omega
    simp [h, hnot]
  · rw [if_neg h]
    split <;> simp [*]

theorem fitsWord_eq_false_iff (n : Int) : fitsWord n = false ↔ n < -0x80000000 ∨ 0x80000000 ≤ n := by
  simp only [fitsWord, Bool.and_eq_false_iff, decide_eq_false_iff_not]
  omega

theorem checkNumbers_eq_tooLarge_iff (year month day hour minute second : Int) :
    checkNumbers year month day hour minute second = .tooLarge ↔
      ∃ n ∈ [year, month, day, hour, minute, second], n < -0x80000000 ∨ 0x80000000 ≤ n := by
  have hfits : (∃ n ∈ [year, month, day, hour, minute, second], n < -0x80000000 ∨ 0x80000000 ≤ n) ↔
      ([year, month, day, hour, minute, second].all fitsWord) = false := by
    simp only [List.all_eq_false, ← fitsWord_eq_false_iff, Bool.not_eq_true]
  rw [hfits, checkNumbers]
  cases h : [year, month, day, hour, minute, second].all fitsWord with
  | false => simp
  | true =>
      simp only [Bool.not_true, Bool.false_eq_true, if_false, reduceCtorEq, iff_false]
      split
      · simp
      · split <;> simp

/-- What is asked of the numbers of a date, once its words are known to be numbers. -/
def checkParts (zone : Option Int) (year month day hour minute second : Int) : Reading :=
  match zone.map checkZone with
  | some .refused => .refused
  | some .tooLarge => .tooLarge
  | _ => checkNumbers year month day hour minute second

theorem checkParts_eq_tooLarge_iff (zone : Option Int) (year month day hour minute second : Int) :
    checkParts zone year month day hour minute second = .tooLarge ↔
      (∃ seconds, zone = some seconds ∧ IsFarZone seconds) ∨
        ((∀ seconds, zone = some seconds → -86400 < seconds ∧ seconds < 86400) ∧
          ∃ n ∈ [year, month, day, hour, minute, second], n < -0x80000000 ∨ 0x80000000 ≤ n) := by
  rw [← checkNumbers_eq_tooLarge_iff]
  cases zone with
  | none => simp [checkParts]
  | some seconds =>
      simp only [Option.some.injEq, exists_eq_left', forall_eq', ← checkZone_eq_tooLarge_iff,
        ← checkZone_eq_accepted_iff, checkParts, Option.map_some]
      cases checkZone seconds <;> simp

/-- A date is too large to be checked exactly if one of its numbers is. -/
theorem Words.check_eq_tooLarge_iff (w : Words) : w.check = .tooLarge ↔ w.IsTooLarge := by
  constructor
  · intro hw
    simp only [Words.check] at hw
    split at hw
    · cases hw
    · rename_i h m s htime
      split at hw
      · rename_i year day hour minute second hyear hday hhour hminute hsecond
        exact ⟨h, m, s, year, day, hour, minute, second, htime, hyear, hday, hhour, hminute,
          hsecond, (checkParts_eq_tooLarge_iff ..).mp hw⟩
      · cases hw
  · rintro ⟨h, m, s, year, day, hour, minute, second, htime, hyear, hday, hhour, hminute, hsecond,
      hlarge⟩
    simp only [Words.check, htime, hyear, hday, hhour, hminute, hsecond]
    exact (checkParts_eq_tooLarge_iff ..).mpr hlarge

end Mail

/-- A text is a mail date, in no other notation of a date, with a number that is too large. -/
def IsTooLargeDate (cs : List Char) : Prop :=
  let cs := Text.trim cs
  Standard.readMoment? cs = none ∧ (∀ layout ∈ Layout.common, layout.read? cs = none) ∧
    ∃ w, Mail.arrange? (Mail.splitZone (Mail.splitHyphens (Mail.dropDayName (Text.words cs)))) =
      some w ∧ w.IsTooLarge

theorem readDate_eq_tooLarge_iff (cs : List Char) : readDate cs = .tooLarge ↔ IsTooLargeDate cs := by
  have hmail : ∀ cs, Mail.read cs = .tooLarge ↔
      ∃ w, Mail.arrange? (Mail.splitZone (Mail.splitHyphens (Mail.dropDayName (Text.words cs)))) =
        some w ∧ w.IsTooLarge := by
    intro cs
    cases h : Mail.arrange? (Mail.splitZone (Mail.splitHyphens (Mail.dropDayName (Text.words cs)))) <;>
      simp [Mail.read, h, Mail.Words.check_eq_tooLarge_iff]
  simp only [readDate, IsTooLargeDate, ← hmail]
  generalize Text.trim cs = cs
  by_cases hempty : cs = []
  · subst hempty
    simp [Mail.read, Text.words, Mail.dropDayName, Mail.splitHyphens, Mail.splitZone,
      Mail.arrange?]
  · have hnot : cs.isEmpty = false := by simpa using hempty
    simp only [hnot, Bool.false_eq_true, if_false]
    cases hmoment : Standard.readMoment? cs with
    | some moment => simp
    | none =>
        simp only [Option.isSome_none, Bool.false_eq_true, if_false, true_and]
        by_cases hlayout : Layout.common.any (fun layout => (layout.read? cs).isSome) = true
        · obtain ⟨layout, hmem, hsome⟩ := List.any_eq_true.mp hlayout
          rw [if_pos hlayout]
          simp only [reduceCtorEq, false_iff, not_and]
          intro hall
          simp [hall layout hmem] at hsome
        · rw [if_neg hlayout]
          have hall : ∀ layout ∈ Layout.common, layout.read? cs = none := by
            simpa using hlayout
          simp only [iff_and_self]
          exact fun _ => hall

/-! ## Ages -/

namespace Day

/-- The days that have no later day of the same month and day, or else of the 28th. -/
theorem addYears?_eq_none_iff (d : Day) (years : Nat) :
    d.addYears? years = none ↔ lastYear < d.year + years := by
  have hvalid := d.valid
  simp only [isDay, Bool.and_eq_true, decide_eq_true_eq] at hvalid
  obtain ⟨⟨⟨⟨⟨hyear, -⟩, hmonth⟩, hmonth'⟩, -⟩, -⟩ := hvalid
  have h28 : ∀ year, 28 ≤ daysInMonth year d.month := by
    intro year
    simp only [daysInMonth]
    split <;> (try split) <;> omega
  have hmake : make? (d.year + years) d.month 28 = none ↔ lastYear < d.year + years := by
    rw [← Option.not_isSome_iff_eq_none, isSome_make?_iff]
    simp only [isDay, Bool.and_eq_true, decide_eq_true_eq]
    have := h28 (d.year + years)
    omega
  have hsame : make? (d.year + years) d.month d.day ≠ none → ¬ lastYear < d.year + years := by
    rw [← Option.isSome_iff_ne_none, isSome_make?_iff]
    simp only [isDay, Bool.and_eq_true, decide_eq_true_eq]
    omega
  cases h : make? (d.year + years) d.month d.day with
  | none => simp [addYears?, h, hmake]
  | some day => simp [addYears?, h, hsame (by simp [h])]

end Day

/-! ## Checks -/

namespace Kind

/-- The values and options on which a check has no answer, and the failure in its place. -/
inductive FailsWith (stack : Stack) (value options : Value) (items : Mapping) : Kind → Failure → Prop
  | date {t : String} (text : value = .text t) (large : IsTooLargeDate t.toList) :
    FailsWith stack value options items .date .tooLarge
  /-- The calendar ends before the person is old enough. -/
  | age {born : Day} (birth : value.birthDay? = some born)
    (late : lastYear < born.year + leastAge) :
    FailsWith stack value options items .over16 (.yearOutOfRange (born.year + leastAge))
  | equals (ends : stack.EndsInStrict value options) :
    FailsWith stack value options items .equals .tooDeep
  /-- None of the options before one is the value, and with this one the stack ends. -/
  | oneOf {members : List Value} (several : options.IsSequence members ∨ options.IsSet members)
    (ends : HasAfter (fun v => value.strictEqual v = false) (stack.EndsInStrict value ·) members) :
    FailsWith stack value options items .oneOf .tooDeep
  | sameAs {x : String} (named : options = .text x)
    (ends : stack.EndsIn 0 value (Mapping.getOrNull items (.text x))) :
    FailsWith stack value options items .sameAs .tooDeep

variable {s : Surroundings} {stack : Stack} {today : Day} {value options : Value} {items : Mapping}
  {failure : Failure}

/-- Every check has an answer for the null value. -/
theorem not_failsWith_null (kind : Kind) : ¬ kind.FailsWith stack .null options items failure := by
  rintro (⟨⟨⟩, -⟩ | ⟨⟨⟩, -⟩ | hends | ⟨-, -, v, -, -, -, hends⟩ | ⟨-, hends⟩)
  · exact Stack.not_endsInStrict_of_depth_eq_zero (.inl rfl) hends
  · exact Stack.not_endsInStrict_of_depth_eq_zero (.inl rfl) hends
  · exact Stack.not_endsIn_of_depth_eq_zero (.inl rfl) hends

/-- The stack is a limit only for a value that lies deeper than it always suffices for. -/
theorem FailsWith.lt_depth {kind : Kind} (h : kind.FailsWith stack value options items .tooDeep) :
    Min.min stack.equalityLevels stack.deepLevels < value.depth := by
  cases h with
  | equals ends =>
      have hlevels := ends.lt_depth
      omega
  | oneOf _ ends =>
      obtain ⟨-, v, -, -, -, hends⟩ := ends
      have hlevels := hends.lt_depth
      omega
  | sameAs _ ends =>
      have hlevels := ends.lt_depth
      omega

theorem namedField_text (x : String) :
    namedField (.text x) (.mapping items) = .ok (Mapping.getOrNull items (.text x)) := by
  cases items <;> rfl

/-- The value of the field that the options name; options that are no text name none. -/
theorem namedField_eq (options : Value) (items : Mapping) :
    (∃ x, options = .text x ∧
        namedField options (.mapping items) = .ok (Mapping.getOrNull items (.text x))) ∨
      ((∀ x, options ≠ .text x) ∧ ∀ fields, namedField options fields = .ok .null) := by
  cases options with
  | text x => exact .inl ⟨x, rfl, namedField_text x⟩
  | _ => exact .inr ⟨by simp, fun _ => rfl⟩

theorem judgeDate_eq_error_iff :
    judgeDate value = .error failure ↔
      (∃ t, value = .text t ∧ IsTooLargeDate t.toList) ∧ failure = .tooLarge := by
  cases value with
  | text t =>
      simp only [judgeDate, Value.text.injEq, exists_eq_left', ← readDate_eq_tooLarge_iff]
      cases readDate t.toList <;> simp [eq_comm]
  | _ => simp [judgeDate]

theorem judgeAge_eq_error_iff :
    judgeAge today value = .error failure ↔
      ∃ born, value.birthDay? = some born ∧ lastYear < born.year + leastAge ∧
        failure = .yearOutOfRange (born.year + leastAge) := by
  cases hborn : value.birthDay? with
  | none => simp [judgeAge, hborn]
  | some born =>
      cases hday : born.addYears? leastAge with
      | none =>
          have hlate := (Day.addYears?_eq_none_iff born leastAge).mp hday
          simp [judgeAge, hborn, hday, hlate, eq_comm]
      | some day =>
          have hearly : ¬ lastYear < born.year + leastAge := by
            rw [← Day.addYears?_eq_none_iff, hday]
            simp
          simp [judgeAge, hborn, hday, hearly]

theorem judgeAmong_eq_error_iff {members : List Value} :
    judgeAmong stack value members = .error failure ↔
      HasAfter (fun v => value.strictEqual v = false) (stack.EndsInStrict value ·) members ∧
        failure = .tooDeep := by
  induction members with
  | nil => simp [judgeAmong]
  | cons v rest ih =>
      rw [judgeAmong, hasAfter_cons]
      rcases Value.compareStrict_cases stack value v with ⟨hends, hfails⟩ | ⟨hends, hanswer⟩
      · rw [hfails, Except.error.injEq, and_iff_right (.inl hends)]
        exact eq_comm
      · rw [hanswer]
        cases hequal : value.strictEqual v with
        | false => simpa [hends] using ih
        | true => simp [hends]

theorem judgeOneOf_eq_error_iff :
    judgeOneOf stack value options = .error failure ↔
      (∃ members, (options.IsSequence members ∨ options.IsSet members) ∧
        HasAfter (fun v => value.strictEqual v = false) (stack.EndsInStrict value ·) members) ∧
      failure = .tooDeep := by
  cases options with
  | text t => cases value <;> simp [judgeOneOf, Value.IsSequence, Value.IsSet]
  | list members | tuple members | set members | fixedSet members =>
      simp [judgeOneOf, judgeAmong_eq_error_iff, Value.IsSequence, Value.IsSet]
  | _ => simp [judgeOneOf, Value.IsSequence, Value.IsSet]

theorem judgeSameAs_eq_error_iff :
    judgeSameAs stack value options (.mapping items) = .error failure ↔
      (∃ x, options = .text x ∧ stack.EndsIn 0 value (Mapping.getOrNull items (.text x))) ∧
      failure = .tooDeep := by
  rcases namedField_eq options items with ⟨x, rfl, hfield⟩ | ⟨hnone, hfield⟩
  · simp only [judgeSameAs, hfield, Except.bind, Value.compareDeep_eq_error_iff, Value.text.injEq,
      exists_eq_left', and_comm]
  · have hends : ¬ stack.EndsIn 0 value .null := Stack.not_endsIn_of_depth_eq_zero (.inr rfl)
    simp [judgeSameAs, hfield, Except.bind, Value.compareDeep_eq_error_iff, hends, hnone]

theorem unlessEmpty_eq_error_iff {judgement : Except Failure Bool} :
    unlessEmpty value judgement = .error failure ↔
      value.isTruthy = true ∧ judgement = .error failure := by
  cases h : value.isTruthy <;> cases judgement <;>
    simp [unlessEmpty, Value.isFalsy, h, Except.map]

/-- A birthday is written by a text that is not empty. -/
theorem isTruthy_of_birthDay? {born : Day} (h : value.birthDay? = some born) :
    value.isTruthy = true := by
  have hempty : (Value.text "").birthDay? = none := by decide
  cases value with
  | text t =>
      simp only [Value.isTruthy, bne_iff_ne, ne_eq]
      rintro rfl
      simp [hempty] at h
  | _ => simp [Value.birthDay?] at h

/-- A date that is too large is not empty. -/
theorem isTruthy_of_isTooLargeDate {t : String} (h : IsTooLargeDate t.toList) :
    (Value.text t).isTruthy = true := by
  have hempty : readDate "".toList = .refused := by decide
  simp only [Value.isTruthy, bne_iff_ne, ne_eq]
  rintro rfl
  rw [← readDate_eq_tooLarge_iff, hempty] at h
  cases h

/-- The checks fail at values past their limits, and nowhere else. -/
theorem judge_eq_error_iff (kind : Kind) :
    kind.judge s value options (.mapping items) = .error failure ↔
      kind.FailsWith s.stack value options items failure := by
  constructor
  · intro h
    cases kind with
    | date =>
        obtain ⟨-, h⟩ := unlessEmpty_eq_error_iff.mp h
        obtain ⟨⟨t, rfl, hlarge⟩, rfl⟩ := judgeDate_eq_error_iff.mp h
        exact .date rfl hlarge
    | over16 =>
        obtain ⟨-, h⟩ := unlessEmpty_eq_error_iff.mp h
        obtain ⟨born, hborn, hlate, rfl⟩ := judgeAge_eq_error_iff.mp h
        exact .age hborn hlate
    | equals =>
        obtain ⟨rfl, hends⟩ := Value.compareStrict_eq_error_iff.mp (map_eq_error_iff.mp h)
        exact .equals hends
    | oneOf =>
        obtain ⟨⟨members, hmembers, hends⟩, rfl⟩ :=
          judgeOneOf_eq_error_iff.mp (map_eq_error_iff.mp h)
        exact .oneOf hmembers hends
    | sameAs =>
        obtain ⟨⟨x, rfl, hends⟩, rfl⟩ := judgeSameAs_eq_error_iff.mp (map_eq_error_iff.mp h)
        exact .sameAs rfl hends
    | username | dateOfBirth | url => simp [judge, unlessEmpty_eq_error_iff] at h
    | required => cases value <;> simp [judge] at h
    | _ => simp [judge] at h
  · rintro (⟨rfl, hlarge⟩ | ⟨hborn, hlate⟩ | hends | ⟨hmembers, hends⟩ | ⟨rfl, hends⟩)
    · exact unlessEmpty_eq_error_iff.mpr
        ⟨isTruthy_of_isTooLargeDate hlarge, judgeDate_eq_error_iff.mpr ⟨⟨_, rfl, hlarge⟩, rfl⟩⟩
    · exact unlessEmpty_eq_error_iff.mpr
        ⟨isTruthy_of_birthDay? hborn, judgeAge_eq_error_iff.mpr ⟨_, hborn, hlate, rfl⟩⟩
    · exact map_eq_error_iff.mpr (Value.compareStrict_eq_error_iff.mpr ⟨rfl, hends⟩)
    · exact map_eq_error_iff.mpr
        (judgeOneOf_eq_error_iff.mpr ⟨⟨_, hmembers, hends⟩, rfl⟩)
    · exact map_eq_error_iff.mpr (judgeSameAs_eq_error_iff.mpr ⟨⟨_, rfl, hends⟩, rfl⟩)

/-- The check of a given value fails where the stack ends in the strict comparison, and says what this
comparison is to say elsewhere. -/
theorem judge_equals_cases (s : Surroundings) (a b fields : Value) :
    s.stack.EndsInStrict a b ∧ equals.judge s a b fields = .error .tooDeep ∨
      ¬ s.stack.EndsInStrict a b ∧ equals.judge s a b fields = .ok (some (a.strictEqual b)) := by
  rcases Value.compareStrict_cases s.stack a b with ⟨hends, h⟩ | ⟨hends, h⟩
  · exact .inl ⟨hends, by rw [judge, h]; rfl⟩
  · exact .inr ⟨hends, by rw [judge, h]; rfl⟩

/-- The check of a text against the value of another field fails where the stack ends in the deep
comparison, and says what this comparison is to say elsewhere. -/
theorem judge_sameAs_cases (s : Surroundings) (a : Value) {b : Value} {x : String}
    (hfield : Mapping.getOrNull items (.text x) = b) :
    let verdict := sameAs.judge s a (.text x) (.mapping items)
    s.stack.EndsIn 0 a b ∧ verdict = .error .tooDeep ∨
      ¬ s.stack.EndsIn 0 a b ∧ verdict = .ok (some (a.deepEqual b)) := by
  intro verdict
  have hverdict : verdict = (a.compareDeep s.stack 0 b).map some := by
    simp only [verdict, judge, judgeSameAs, namedField_text, hfield, Except.bind]
  rcases Value.compareDeep_cases s.stack 0 a b with ⟨hends, h⟩ | ⟨hends, h⟩
  · exact .inl ⟨hends, by rw [hverdict, h]; rfl⟩
  · exact .inr ⟨hends, by rw [hverdict, h]; rfl⟩

/-- A check reads of the other fields at most the one that its options name. -/
theorem judge_congr (kind : Kind) {fields fields' : Value}
    (h : kind = .sameAs → namedField options fields = namedField options fields') :
    kind.judge s value options fields = kind.judge s value options fields' := by
  cases kind with
  | sameAs => simp only [judge, judgeSameAs, h rfl]
  | _ => rfl

end Kind

end FieldRules
