import FieldRules.Proofs.BirthDates

/-!
# Dates in figures

A date can be written in figures with hyphens or with slashes, the year first or the month first. The rule
about dates tries one reader after the other, eight in all, and takes a text as soon as one of them does. So
it is not enough that the reader meant for a notation refuses a day that the calendar does not have: none of
those after it may find another reading of the same figures.

What rules out most of them is not looked at digit by digit. A layout reads no text without the marks that it
asks for, and a mail date is several words. So a text without white space is left to three readers, and those
that want slashes refuse hyphens. Between the two orders with slashes the number of figures before the first
slash decides, and the standard notation stops at a slash in either.

## Main definitions

* `LayoutPart.IsHeldBy` — a text holds what a part of a layout asks for

## Main statements

* `Layout.isHeldBy_of_readFrom` — a text that is read holds what its layout asks for
* `readDate_of_no_blank` — dates without white space in them
* `Kind.numeric_dates_agree` — one calendar for all notations
-/

namespace FieldRules

open Text

/-! ## What a layout asks for -/

/-- The text holds white space for a gap, and a character that stands for itself. -/
def LayoutPart.IsHeldBy (cs : List Char) : LayoutPart → Prop
  | .gap => ∃ c ∈ cs, isBlank c = true
  | .char c => c ∈ cs
  | _ => True

theorem LayoutPart.IsHeldBy.mono {part : LayoutPart} {cs rest : List Char} (h : part.IsHeldBy rest)
    (hrest : rest ⊆ cs) : part.IsHeldBy cs := by
  cases part with
  | gap =>
      obtain ⟨c, hc, hblank⟩ := h
      exact ⟨c, hrest hc, hblank⟩
  | char c => exact hrest h
  | _ => trivial

theorem subset_of_takeDay? {cs rest : List Char} {n : Nat} (h : takeDay? cs = some (n, rest)) :
    rest ⊆ cs := by
  unfold takeDay? at h
  grind

theorem subset_of_takeMonth? {cs rest : List Char} {n : Nat} (h : takeMonth? cs = some (n, rest)) :
    rest ⊆ cs := by
  unfold takeMonth? at h
  grind

theorem subset_of_takeYear? {cs rest : List Char} {n : Nat} (h : takeYear? cs = some (n, rest)) :
    rest ⊆ cs := by
  unfold takeYear? at h
  split at h
  · cases h
  · obtain ⟨m, -, heq⟩ := Option.map_eq_some_iff.mp h
    obtain ⟨-, rfl⟩ := Prod.mk.inj heq
    exact List.drop_subset 4 cs

theorem subset_of_takeName? {names : List String} {cs rest : List Char} {n : Nat}
    (h : takeName? names cs = some (n, rest)) : rest ⊆ cs := by
  unfold takeName? at h
  dsimp only at h
  split at h
  · obtain ⟨-, rfl⟩ := Prod.mk.inj (Option.some.inj h)
    exact List.drop_subset _ cs
  · cases h

/-- A part is read from a text that holds what it asks for, and leaves an end of the text to the parts
after it. -/
theorem Layout.exists_rest_of_readFrom {part : LayoutPart} {parts : Layout} {found numbers : DateNumbers}
    {cs : List Char} (h : readFrom found (part :: parts) cs = some numbers) :
    part.IsHeldBy cs ∧ ∃ found' rest, readFrom found' parts rest = some numbers ∧ rest ⊆ cs := by
  cases part with
  | day =>
      obtain ⟨⟨n, rest⟩, htake, hread⟩ := Option.bind_eq_some_iff.mp h
      exact ⟨trivial, _, rest, hread, subset_of_takeDay? htake⟩
  | month =>
      obtain ⟨⟨n, rest⟩, htake, hread⟩ := Option.bind_eq_some_iff.mp h
      exact ⟨trivial, _, rest, hread, subset_of_takeMonth? htake⟩
  | year =>
      obtain ⟨⟨n, rest⟩, htake, hread⟩ := Option.bind_eq_some_iff.mp h
      exact ⟨trivial, _, rest, hread, subset_of_takeYear? htake⟩
  | name | shortName =>
      obtain ⟨⟨n, rest⟩, htake, hread⟩ := Option.bind_eq_some_iff.mp h
      exact ⟨trivial, _, rest, hread, subset_of_takeName? htake⟩
  | gap =>
      cases cs with
      | nil => cases h
      | cons c rest =>
          rw [readFrom] at h
          split at h
          · have hsubset : rest.dropWhile isBlank ⊆ c :: rest :=
              List.Subset.trans (List.dropWhile_subset isBlank) (List.subset_cons_self c rest)
            exact ⟨⟨c, List.mem_cons_self, ‹_›⟩, _, _, h, hsubset⟩
          · cases h
  | char expected =>
      cases cs with
      | nil => cases h
      | cons c rest =>
          rw [readFrom] at h
          split at h
          · subst expected
            exact ⟨List.mem_cons_self, _, rest, h, List.subset_cons_self c rest⟩
          · cases h

/-- A text that is read holds all that its layout asks for. -/
theorem Layout.isHeldBy_of_readFrom {layout : Layout} {found numbers : DateNumbers} {cs : List Char}
    (h : readFrom found layout cs = some numbers) : ∀ part ∈ layout, part.IsHeldBy cs := by
  induction layout generalizing found cs with
  | nil => simp
  | cons part parts ih =>
      obtain ⟨hpart, found', rest, hread, hsubset⟩ := exists_rest_of_readFrom h
      intro other hother
      rcases List.mem_cons.mp hother with rfl | hother
      · exact hpart
      · exact (ih hread other hother).mono hsubset

/-- A text that lacks what a part of a layout asks for is not read. -/
theorem Layout.read?_eq_none {layout : Layout} {part : LayoutPart} {cs : List Char}
    (hpart : part ∈ layout) (hnot : ¬ part.IsHeldBy cs) : layout.read? cs = none := by
  cases hread : readFrom {} layout cs with
  | none => rw [read?, hread, Option.bind_none]
  | some numbers => exact absurd (isHeldBy_of_readFrom hread part hpart) hnot

/-! ## Texts without white space -/

/-- A mail date is more than one word. -/
theorem Mail.read_of_no_blank {cs : List Char} (h : ∀ c ∈ cs, isBlank c = false) :
    Mail.read cs = .refused := by
  have hwords : words cs = [] ∨ words cs = [cs] := by
    have hsplit : cs.splitOnP isBlank = [cs] := List.splitOnP_eq_singleton (by simpa using h)
    rw [words, hsplit]
    cases cs <;> simp
  have hshort : ∀ ws : List (List Char), ws.length ≤ 1 →
      arrange? (splitZone (splitHyphens ws)) = none := by
    intro ws hws
    cases ws with
    | nil => rfl
    | cons w ws =>
        obtain rfl : ws = [] := List.eq_nil_of_length_eq_zero (by simpa using hws)
        rfl
  have hnone : arrange? (splitZone (splitHyphens (dropDayName (words cs)))) = none := by
    apply hshort
    rcases hwords with hwords | hwords
    · simp [hwords, dropDayName]
    · rw [hwords, dropDayName]
      split
      · simp
      · split <;> simp
  rw [read, hnone]

namespace Layout

/-- Month, day and year, with slashes between them. -/
def monthFirst : Layout :=
  [.month, .char '/', .day, .char '/', .year]

/-- Year, month and day, with slashes between them. -/
def yearFirst : Layout :=
  [.year, .char '/', .month, .char '/', .day]

/-- The layouts other than these two have white space in them. -/
theorem any_common_of_no_blank {cs : List Char} (h : ∀ c ∈ cs, isBlank c = false) :
    (common.any fun layout => (layout.read? cs).isSome) =
      ((monthFirst.read? cs).isSome || (yearFirst.read? cs).isSome) := by
  have hgap : ¬ LayoutPart.IsHeldBy cs .gap := by
    rintro ⟨c, hc, hblank⟩
    rw [h c hc] at hblank
    cases hblank
  simp [common, monthFirst, yearFirst, read?_eq_none _ hgap]

end Layout

/-- White space around a text is not part of its date, and without white space in it three readers are
left. -/
theorem readDate_of_no_blank {before cs after : List Char} (hne : cs ≠ [])
    (h : ∀ c ∈ cs, isBlank c = false) (hbefore : ∀ c ∈ before, isBlank c = true)
    (hafter : ∀ c ∈ after, isBlank c = true) :
    readDate (before ++ (cs ++ after)) =
      if (Standard.readMoment? cs).isSome || (Layout.monthFirst.read? cs).isSome ||
          (Layout.yearFirst.read? cs).isSome then .accepted
      else .refused := by
  have htrim : trim (before ++ (cs ++ after)) = cs := trimBy_append hne h hbefore hafter
  have hempty : cs.isEmpty = false := by simpa using hne
  simp only [readDate, htrim, hempty, Bool.false_eq_true, if_false, Layout.any_common_of_no_blank h,
    Mail.read_of_no_blank h]
  cases (Standard.readMoment? cs).isSome <;> simp

/-! ## The standard notation -/

namespace Standard

variable {cs : List Char}

theorem takeNumberFrom_append {soFar : Nat} (h : ∀ c ∈ cs, c.isDigit = true) (rest : List Char) :
    takeNumberFrom soFar cs.length (cs ++ rest) = some (Nat.ofDigitChars 10 cs soFar, rest) := by
  induction cs generalizing soFar with
  | nil => rfl
  | cons c cs ih =>
      obtain ⟨hc, hcs⟩ := List.forall_mem_cons.mp h
      have hdigit : isAsciiDigit c = true := hc
      rw [List.length_cons, List.cons_append, takeNumberFrom, if_pos hdigit, ih hcs,
        Nat.ofDigitChars_cons]

/-- A number of fixed width is read as the number that is written. -/
theorem takeNumber_append {width n : Nat} (h : WritesNumber width width n cs) (rest : List Char) :
    takeNumber width (cs ++ rest) = some (n, rest) := by
  have htake : takeNumberFrom 0 cs.length (cs ++ rest) = some (Nat.ofDigitChars 10 cs 0, rest) :=
    takeNumberFrom_append h.digits rest
  rwa [h.length_eq, h.value] at htake

/-- A number of fixed width is none if a character among its first ones is no digit. -/
theorem takeNumberFrom_eq_none {soFar width : Nat} {c : Char} {rest : List Char}
    (hc : isAsciiDigit c = false) (h : cs.length < width) :
    takeNumberFrom soFar width (cs ++ c :: rest) = none := by
  induction cs generalizing soFar width with
  | nil =>
      obtain ⟨width, rfl⟩ := Nat.exists_eq_succ_of_ne_zero h.ne'
      simp [takeNumberFrom, hc]
  | cons d cs ih =>
      obtain ⟨width, rfl⟩ := Nat.exists_eq_succ_of_ne_zero (Nat.ne_zero_of_lt h)
      have hlt : cs.length < width := Nat.lt_of_succ_lt_succ h
      simp [takeNumberFrom, ih hlt]

/-- A text without the letter for no distance has nothing to write out. -/
theorem writeOutZ_eq_self (h : 'Z' ∉ cs) : writeOutZ cs = cs := by
  induction cs with
  | nil => rfl
  | cons c cs ih =>
      obtain ⟨hc, hcs⟩ := List.ne_and_not_mem_of_not_mem_cons h
      have hrest : cs.flatMap _ = cs := ih hcs
      simp [writeOutZ, hc.symm, hrest]

/-- A text whose first characters are no date is no moment. -/
theorem readMoment?_eq_none {n : Nat} (hz : 'Z' ∉ cs) (hlength : dateLength? cs = some n)
    (hday : readDay? (cs.take n) = none) : readMoment? cs = none := by
  simp only [readMoment?, writeOutZ_eq_self hz, hlength, hday]

end Standard

/-! ## The notations -/

section Notations

variable {year month day : Nat} {ys ms ds : List Char}

/-- The notations of a date in figures: the year first with hyphens, and the month or the year first with
slashes. -/
def numericNotations (ys ms ds : List Char) : List (List Char) :=
  [ys ++ '-' :: (ms ++ '-' :: ds), ms ++ '/' :: (ds ++ '/' :: ys), ys ++ '/' :: (ms ++ '/' :: ds)]

/-- Between digits there are only the two marks. -/
theorem eq_or_isDigit_of_mem {first second third : List Char} {mark : Char}
    (hfirst : ∀ c ∈ first, c.isDigit = true) (hsecond : ∀ c ∈ second, c.isDigit = true)
    (hthird : ∀ c ∈ third, c.isDigit = true) :
    ∀ c ∈ first ++ mark :: (second ++ mark :: third), c = mark ∨ c.isDigit = true := by
  intro c hc
  simp only [List.mem_append, List.mem_cons] at hc
  rcases hc with hc | rfl | hc | rfl | hc
  · exact .inr (hfirst c hc)
  · exact .inl rfl
  · exact .inr (hsecond c hc)
  · exact .inl rfl
  · exact .inr (hthird c hc)

/-- No other character is in such a text. -/
theorem not_mem_of_ne {first second third : List Char} {mark other : Char}
    (hfirst : ∀ c ∈ first, c.isDigit = true) (hsecond : ∀ c ∈ second, c.isDigit = true)
    (hthird : ∀ c ∈ third, c.isDigit = true) (hne : other ≠ mark) (hother : other.isDigit = false) :
    other ∉ first ++ mark :: (second ++ mark :: third) := by
  intro hmem
  rcases eq_or_isDigit_of_mem hfirst hsecond hthird other hmem with hmark | hdigit
  · exact hne hmark
  · rw [hother] at hdigit
    cases hdigit

theorem not_isBlank_of_mem {first second third : List Char} {mark : Char}
    (hfirst : ∀ c ∈ first, c.isDigit = true) (hsecond : ∀ c ∈ second, c.isDigit = true)
    (hthird : ∀ c ∈ third, c.isDigit = true) (hmark : isBlank mark = false) :
    ∀ c ∈ first ++ mark :: (second ++ mark :: third), isBlank c = false := by
  intro c hc
  rcases eq_or_isDigit_of_mem hfirst hsecond hthird c hc with rfl | hdigit
  · exact hmark
  · exact isBlank_of_isDigit hdigit

variable (hyear : WritesNumber 4 4 year ys) (hmonth : WritesNumber 2 2 month ms)
  (hday : WritesNumber 2 2 day ds)

include hyear hmonth hday

theorem Standard.readDay?_hyphens :
    readDay? (ys ++ '-' :: (ms ++ '-' :: ds)) = Day.make? year month day := by
  have hread : readMonth? true year (ms ++ '-' :: ds) = Day.make? year month day := by
    have hend : takeNumber 2 (ds ++ []) = some (day, []) := takeNumber_append hday []
    rw [List.append_nil] at hend
    simp [readMonth?, takeNumber_append hmonth, hend]
  rw [← hread, readDay?, takeNumber_append hyear]
  obtain ⟨m, m', rfl⟩ := List.length_eq_two.mp hmonth.length_eq
  have hweek : m ≠ 'W' := ne_of_isDigit (hmonth.digits m (by simp)) rfl
  simp [hweek]

/-- The standard notation has hyphens and takes the numbers as they are. -/
theorem Standard.isSome_readMoment?_hyphens :
    (readMoment? (ys ++ '-' :: (ms ++ '-' :: ds))).isSome = isDay year month day := by
  have hz : 'Z' ∉ ys ++ '-' :: (ms ++ '-' :: ds) :=
    not_mem_of_ne hyear.digits hmonth.digits hday.digits (by decide) rfl
  have hlength : dateLength? (ys ++ '-' :: (ms ++ '-' :: ds)) = some 10 := by
    obtain ⟨a, b, c, e, rfl⟩ := List.length_eq_four.mp hyear.length_eq
    obtain ⟨m, n, rfl⟩ := List.length_eq_two.mp hmonth.length_eq
    have hweek : m ≠ 'W' := ne_of_isDigit (hmonth.digits m (by simp)) rfl
    simp [dateLength?, hweek, hday.length_eq]
  have hten : (ys ++ '-' :: (ms ++ '-' :: ds)).length = 10 := by
    simp [hyear.length_eq, hmonth.length_eq, hday.length_eq]
  have htake : (ys ++ '-' :: (ms ++ '-' :: ds)).take 10 = ys ++ '-' :: (ms ++ '-' :: ds) :=
    List.take_of_length_le hten.le
  have hdrop : (ys ++ '-' :: (ms ++ '-' :: ds)).drop 10 = [] := List.drop_of_length_le hten.le
  simp only [readMoment?, writeOutZ_eq_self hz, hlength, htake, hdrop,
    readDay?_hyphens hyear hmonth hday]
  rw [← Day.isSome_make?]
  cases Day.make? year month day <;> rfl

/-- A slash among the first eight characters is in the way of the standard notation: it is no digit, and it
is no mark between two numbers. -/
theorem Standard.readMoment?_slashes :
    readMoment? (ms ++ '/' :: (ds ++ '/' :: ys)) = none ∧
      readMoment? (ys ++ '/' :: (ms ++ '/' :: ds)) = none := by
  have hzMonth : 'Z' ∉ ms ++ '/' :: (ds ++ '/' :: ys) :=
    not_mem_of_ne hmonth.digits hday.digits hyear.digits (by decide) rfl
  have hzYear : 'Z' ∉ ys ++ '/' :: (ms ++ '/' :: ds) :=
    not_mem_of_ne hyear.digits hmonth.digits hday.digits (by decide) rfl
  have hmonthFirst : ∀ rest, readDay? (ms ++ '/' :: rest) = none := by
    intro rest
    have hshort : ms.length < 4 := by
      rw [hmonth.length_eq]
      decide
    have hnone : takeNumber 4 (ms ++ '/' :: rest) = none := takeNumberFrom_eq_none rfl hshort
    rw [readDay?, hnone]
  have hyearFirst : ∀ rest, readDay? (ys ++ '/' :: rest) = none := by
    intro rest
    have hnone : takeNumber 2 ('/' :: rest) = none := rfl
    rw [readDay?, takeNumber_append hyear]
    simp [readMonth?, hnone]
  obtain ⟨a, b, c, e, rfl⟩ := List.length_eq_four.mp hyear.length_eq
  obtain ⟨m, n, rfl⟩ := List.length_eq_two.mp hmonth.length_eq
  obtain ⟨f, g, rfl⟩ := List.length_eq_two.mp hday.length_eq
  constructor
  · -- The fifth character, which tells where a date ends, is a digit of the day.
    have hg : g ≠ '-' ∧ g ≠ 'W' :=
      ⟨ne_of_isDigit (hday.digits g (by simp)) rfl, ne_of_isDigit (hday.digits g (by simp)) rfl⟩
    exact readMoment?_eq_none (n := 8) hzMonth (by simp [dateLength?, hg]) (hmonthFirst _)
  · exact readMoment?_eq_none (n := 8) hzYear (by simp [dateLength?]) (hyearFirst _)

namespace Layout

theorem read?_monthFirst :
    monthFirst.read? (ms ++ '/' :: (ds ++ '/' :: ys)) = Day.make? year month day := by
  rw [read?, monthFirst, readFrom_month hmonth.one_two (refusesDigits_char rfl) (isDigit_of_head?_slash _),
    readFrom_char, readFrom_day hday.one_two (refusesDigits_char rfl) (isDigit_of_head?_slash _),
    readFrom_char, readFrom_year_end hyear]
  exact bind_make? fun hdate => ⟨hdate.month_bounds, hdate.day_bounds⟩

theorem read?_yearFirst :
    yearFirst.read? (ys ++ '/' :: (ms ++ '/' :: ds)) = Day.make? year month day := by
  rw [read?, yearFirst, readFrom_year hyear, readFrom_char,
    readFrom_month hmonth.one_two (refusesDigits_char rfl) (isDigit_of_head?_slash _), readFrom_char,
    readFrom_day_end hday.one_two]
  exact bind_make? fun hdate => ⟨hdate.month_bounds, hdate.day_bounds⟩

omit hyear in
/-- Four characters with a slash among them are no year. -/
theorem read?_yearFirst_eq_none : yearFirst.read? (ms ++ '/' :: (ds ++ '/' :: ys)) = none := by
  obtain ⟨m, n, rfl⟩ := List.length_eq_two.mp hmonth.length_eq
  obtain ⟨f, g, rfl⟩ := List.length_eq_two.mp hday.length_eq
  have hyear : natOfDigits? [m, n, '/', f] = none := by
    rw [← Option.not_isSome_iff_eq_none, isSome_natOfDigits?_iff]
    intro hall
    have hslash : isDigit '/' = true := hall '/' (by simp)
    exact absurd hslash (by decide)
  simp [read?, yearFirst, readFrom, takeYear?, hyear]

omit hmonth hday in
/-- After a month another digit of the year is left, where there should be a slash. -/
theorem read?_monthFirst_eq_none : monthFirst.read? (ys ++ '/' :: (ms ++ '/' :: ds)) = none := by
  obtain ⟨a, b, c, e, rfl⟩ := List.length_eq_four.mp hyear.length_eq
  have hdigits := hyear.digits
  simp only [List.forall_mem_cons] at hdigits
  obtain ⟨ha, hb, hc, -⟩ := hdigits
  rw [read?, monthFirst, List.cons_append, List.cons_append, List.cons_append,
    readFrom_month_eq_none ha hb hc (refusesDigits_char rfl), Option.bind_none]

/-- Hyphens are not the slashes that the layouts ask for. -/
theorem read?_hyphens_eq_none :
    monthFirst.read? (ys ++ '-' :: (ms ++ '-' :: ds)) = none ∧
      yearFirst.read? (ys ++ '-' :: (ms ++ '-' :: ds)) = none := by
  have hslash : ¬ LayoutPart.IsHeldBy (ys ++ '-' :: (ms ++ '-' :: ds)) (.char '/') :=
    not_mem_of_ne hyear.digits hmonth.digits hday.digits (by decide) rfl
  exact ⟨read?_eq_none (by simp [monthFirst]) hslash, read?_eq_none (by simp [yearFirst]) hslash⟩

end Layout

/-- Of all readers one is left for each notation, and it asks whether there is such a day. -/
theorem readDate_numericNotations {before after : List Char} (hbefore : ∀ c ∈ before, isBlank c = true)
    (hafter : ∀ c ∈ after, isBlank c = true) :
    ∀ cs ∈ numericNotations ys ms ds,
      readDate (before ++ (cs ++ after)) = if isDay year month day then .accepted else .refused := by
  simp only [numericNotations, List.forall_mem_cons, List.not_mem_nil, false_imp_iff, implies_true,
    and_true]
  refine ⟨?_, ?_, ?_⟩
  · have hclear := not_isBlank_of_mem hyear.digits hmonth.digits hday.digits (rfl : isBlank '-' = false)
    rw [readDate_of_no_blank (by simp) hclear hbefore hafter,
      Standard.isSome_readMoment?_hyphens hyear hmonth hday,
      (Layout.read?_hyphens_eq_none hyear hmonth hday).1,
      (Layout.read?_hyphens_eq_none hyear hmonth hday).2]
    simp
  · have hclear := not_isBlank_of_mem hmonth.digits hday.digits hyear.digits (rfl : isBlank '/' = false)
    rw [readDate_of_no_blank (by simp) hclear hbefore hafter,
      (Standard.readMoment?_slashes hyear hmonth hday).1, Layout.read?_monthFirst hyear hmonth hday,
      Layout.read?_yearFirst_eq_none hmonth hday, Day.isSome_make?]
    simp
  · have hclear := not_isBlank_of_mem hyear.digits hmonth.digits hday.digits (rfl : isBlank '/' = false)
    rw [readDate_of_no_blank (by simp) hclear hbefore hafter,
      (Standard.readMoment?_slashes hyear hmonth hday).2, Layout.read?_monthFirst_eq_none hyear,
      Layout.read?_yearFirst hyear hmonth hday, Day.isSome_make?]
    simp

end Notations

/-! ## The rules -/

namespace Kind

variable {s : Surroundings} {given fields : Value} {year month day : Nat} {ys ms ds cs : List Char}

theorem isFalsy_ofList (hne : cs ≠ []) : (Value.text (String.ofList cs)).isFalsy = false := by
  have hne' : String.ofList cs ≠ "" := by
    intro heq
    exact hne (by simpa using congrArg String.toList heq)
  simp [Value.isFalsy, Value.isTruthy, hne']

theorem judge_date_ofList {b : Bool} (hne : cs ≠ [])
    (h : readDate cs = if b then .accepted else .refused) :
    date.judge s (.text (String.ofList cs)) given fields = .ok (some b) := by
  simp only [judge, unlessEmpty, isFalsy_ofList hne, judgeDate, String.toList_ofList, h]
  cases b <;> rfl

theorem judge_dateOfBirth_ofList (h : WritesBirthDate year month day cs) :
    dateOfBirth.judge s (.text (String.ofList cs)) given fields =
      .ok (some (isDay year month day)) := by
  have hne : cs ≠ [] := by
    obtain ⟨ds, ms, ys, rfl, -⟩ := h
    simp
  simp [judge, unlessEmpty, isFalsy_ofList hne, Value.birthDay?, birthDay?_eq_make? h,
    Day.isSome_make?, Except.map]

/-- A date in figures is accepted in one notation exactly if it is in the others: if it is in the calendar.
This holds for the rule about dates of birth too, whose notation has the day first, and for dates with white
space around them. -/
theorem numeric_dates_agree (s : Surroundings) (given fields : Value)
    (hyear : WritesNumber 4 4 year ys) (hmonth : WritesNumber 2 2 month ms)
    (hday : WritesNumber 2 2 day ds) :
    ∃ b, (b = true ↔ IsDate year month day) ∧
      (∀ cs ∈ numericNotations ys ms ds, ∀ before after, (∀ c ∈ before, isBlank c = true) →
        (∀ c ∈ after, isBlank c = true) →
        date.judge s (.text (String.ofList (before ++ (cs ++ after)))) given fields = .ok (some b)) ∧
      dateOfBirth.judge s (.text (String.ofList (ds ++ '/' :: (ms ++ '/' :: ys)))) given fields =
        .ok (some b) := by
  refine ⟨isDay year month day, ?_, ?_, ?_⟩
  · rw [isDay_iff]
    exact and_iff_right hyear.le_lastYear
  · intro cs hcs before after hbefore hafter
    have hne : before ++ (cs ++ after) ≠ [] := by
      have hcs' : cs ≠ [] := by
        rintro rfl
        simp [numericNotations] at hcs
      simp [hcs']
    exact judge_date_ofList hne (readDate_numericNotations hyear hmonth hday hbefore hafter cs hcs)
  · have hwrites : WritesBirthDate year month day (ds ++ '/' :: (ms ++ '/' :: ys)) :=
      ⟨ds, ms, ys, rfl, hday.one_two, hmonth.one_two, hyear⟩
    exact judge_dateOfBirth_ofList hwrites

/-- The 29th of February 2000 is a date, here with the year first and a space at the end; in the year 2100,
here with the month first, there is no such day. -/
theorem numeric_dates_agree_centuries :
    date.judge .silent (.text "2000/02/29 ") .null .null = .ok (some true) ∧
      date.judge .silent (.text "02/29/2100") .null .null = .ok (some false) := by
  have hmonth : WritesNumber 2 2 2 ['0', '2'] := by decide
  have hday : WritesNumber 2 2 29 ['2', '9'] := by decide
  have hleap : WritesNumber 4 4 2000 ['2', '0', '0', '0'] := by decide
  have hcommon : WritesNumber 4 4 2100 ['2', '1', '0', '0'] := by decide
  obtain ⟨yes, hyes, hleapDates, -⟩ :=
    numeric_dates_agree .silent .null .null hleap hmonth hday
  obtain ⟨no, hno, hcommonDates, -⟩ :=
    numeric_dates_agree .silent .null .null hcommon hmonth hday
  obtain rfl : yes = true := hyes.mpr (isDay_iff.mp rfl).2
  obtain rfl : no = false := by
    have hmissing : ¬ IsDate 2100 2 29 := not_isDate_of_not_isLeap (by rw [← isLeapYear_iff]; decide)
    rwa [← hno, Bool.not_eq_true] at hmissing
  have hyearFirst : "2000/02/29".toList ∈ numericNotations ['2', '0', '0', '0'] ['0', '2'] ['2', '9'] := by
    decide
  have hmonthFirst : "02/29/2100".toList ∈ numericNotations ['2', '1', '0', '0'] ['0', '2'] ['2', '9'] := by
    decide
  exact ⟨hleapDates _ hyearFirst [] [' '] (by simp) (List.forall_mem_singleton.mpr rfl),
    hcommonDates _ hmonthFirst [] [] (by simp) (by simp)⟩

end Kind

end FieldRules
