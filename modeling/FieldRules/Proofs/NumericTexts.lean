import FieldRules.Proofs.StrictNumerals
import FieldRules.Proofs.UnusableOptions
import Mathlib.Data.List.DropRight

/-!
# What passes a bound begins like a number

Texts are taken for numbers in two ways. The checks of bounds take a text that is a strict numeral from
its first character to its last, once the white space around it is gone. The check for numbers asks much
less: after white space and a sign the text has to begin like a number, and anything may follow. What
it begins with can be told from at most two characters or from one word.

So whatever is compared with a bound is a number to the other check as well, whichever script its digits
are from and whatever white space surrounds it. This would fail if a digit of some script counted as
white space, or if one of the two took something for white space that the other does not.

## Main definitions

* `Numeral.opening` — how a text begins that begins like a number, white space aside
* `Numeral.Begins` — the same without a sign, told from the first characters

## Main statements

* `Numeral.lenient_fits_iff` — the texts that begin like a number
* `Numeral.lenient_fits_of_strict` — strict numerals do
* `Kind.bounded_is_number` — both checks together
-/

namespace FieldRules

open Text

namespace Text

/-- A text is what is left of it when it is trimmed, with white space around it. -/
theorem exists_dropWhile_eq_trim (cs : List Char) :
    ∃ rest, cs.dropWhile isBlank = trim cs ++ rest := by
  obtain ⟨rest, hrest⟩ := List.rdropWhile_prefix isBlank (cs.dropWhile isBlank)
  exact ⟨rest, hrest.symm⟩

end Text

namespace Numeral

variable {cs ds : List Char}

/-- How a text begins that begins like a number, after the white space before it. -/
def opening : Shape :=
  .seq sign (.or (.literal ['I', 'n', 'f', 'i', 'n', 'i', 't', 'y']) (.seq mantissa exponent))

/-- A text without sign begins like a number: with a decimal digit of any script, with a point and such
a digit, or with the word for infinity. -/
inductive Begins : List Char → Prop
  | digit {d : Char} {rest : List Char} (hd : isDigit d = true) : Begins (d :: rest)
  | point {d : Char} {rest : List Char} (hd : isDigit d = true) : Begins ('.' :: d :: rest)
  | infinity {rest : List Char} : Begins ("Infinity".toList ++ rest)

theorem Begins.append (h : Begins cs) (ds : List Char) : Begins (cs ++ ds) := by
  cases h with
  | digit hd => exact .digit hd
  | point hd => exact .point hd
  | infinity =>
      rw [List.append_assoc]
      exact .infinity

/-- A text that begins like a number begins neither with white space nor with a sign. -/
theorem Begins.exists_head (h : Begins cs) :
    ∃ c rest, cs = c :: rest ∧ isBlank c = false ∧ c ≠ '+' ∧ c ≠ '-' := by
  cases h with
  | @digit d rest hd =>
      refine ⟨d, rest, rfl, isBlank_of_decimal hd, ?_, ?_⟩ <;> rintro rfl <;> revert hd <;> decide
  | @point d rest hd => exact ⟨'.', d :: rest, rfl, by decide, by decide, by decide⟩
  | @infinity rest => exact ⟨'I', _, rfl, by decide, by decide, by decide⟩

/-- The sign before a text that begins like a number can be told from it. -/
theorem Begins.takeSign_append {sign : List Char} (hsign : IsSign sign) (h : Begins cs) :
    (takeSign (sign ++ cs)).2 = cs := by
  obtain ⟨c, rest, rfl, -, hhead⟩ := h.exists_head
  have hsigns : ∀ c' ∈ (c :: rest).head?, c' ≠ '+' ∧ c' ≠ '-' := fun c' hc' => by
    obtain rfl : c = c' := Option.some.inj hc'
    exact hhead
  rw [Numeral.takeSign_append hsign hsigns]

/-- White space before a sign and a text that begins like a number ends with the sign. -/
theorem Begins.dropWhile_append {blank sign : List Char} (hblank : ∀ c ∈ blank, isBlank c = true)
    (hsign : IsSign sign) (h : Begins cs) :
    (blank ++ (sign ++ cs)).dropWhile isBlank = sign ++ cs := by
  rw [List.dropWhile_append_of_pos hblank]
  obtain ⟨c, rest, rfl, hc, -⟩ := h.exists_head
  rcases hsign with rfl | rfl | rfl
  · exact List.dropWhile_cons_of_neg (by simp [hc])
  · rfl
  · rfl

theorem exists_isSign (cs : List Char) : ∃ sign, IsSign sign ∧ cs = sign ++ (takeSign cs).2 := by
  unfold takeSign
  split
  · exact ⟨['+'], .inr (.inl rfl), rfl⟩
  · exact ⟨['-'], .inr (.inr rfl), rfl⟩
  · exact ⟨[], .inl rfl, rfl⟩

/-! ## How numbers begin -/

/-- Digits are a digit, and more of them. -/
theorem exists_head_of_digits (h : Shape.Describes digits cs) :
    ∃ d rest, cs = d :: rest ∧ isDigit d = true := by
  obtain ⟨hne, hall⟩ := describes_digits_iff.mp h
  obtain ⟨d, rest, rfl⟩ := List.exists_cons_of_ne_nil hne
  exact ⟨d, rest, rfl, hall d List.mem_cons_self⟩

theorem begins_of_mantissa (h : Shape.Describes mantissa cs) : Begins cs := by
  rcases Shape.describes_or_iff.mp h with h | h
  · obtain ⟨t, u, rfl, ht, -⟩ := Shape.describes_seq_iff.mp h
    obtain ⟨d, rest, rfl, hd⟩ := exists_head_of_digits ht
    exact .digit hd
  · obtain ⟨t, u, rfl, ht, hu⟩ := Shape.describes_seq_iff.mp h
    obtain rfl := Shape.describes_literal_iff.mp ht
    obtain ⟨d, rest, rfl, hd⟩ := exists_head_of_digits hu
    exact .point hd

theorem begins_of_opening (h : Shape.Describes opening cs) :
    ∃ sign rest, cs = sign ++ rest ∧ IsSign sign ∧ Begins rest := by
  obtain ⟨sign, rest, rfl, hsign, hrest⟩ := Shape.describes_seq_iff.mp h
  refine ⟨sign, rest, rfl, describes_sign_iff.mp hsign, ?_⟩
  rcases Shape.describes_or_iff.mp hrest with hrest | hrest
  · obtain rfl := Shape.describes_literal_iff.mp hrest
    exact .infinity
  · obtain ⟨t, u, rfl, ht, -⟩ := Shape.describes_seq_iff.mp hrest
    exact (begins_of_mantissa ht).append u

/-- What begins like a number, with a sign or without one, begins with a text that is described. -/
theorem Begins.exists_opening {sign : List Char} (hsign : IsSign sign) (h : Begins cs) :
    ∃ before after, sign ++ cs = before ++ after ∧ Shape.Describes opening before := by
  have hsign' := describes_sign_iff.mpr hsign
  have hmantissa : ∀ t, Shape.Describes mantissa t → Shape.Describes opening (sign ++ (t ++ [])) :=
    fun t ht => hsign'.seq (.right (ht.seq (.right .empty)))
  have hdigits : ∀ d, isDigit d = true → Shape.Describes digits [d] :=
    fun d hd => describes_digits_iff.mpr ⟨List.cons_ne_nil d [], by simpa using hd⟩
  cases h with
  | @digit d rest hd =>
      have hnumber := hmantissa ([d] ++ []) (.left ((hdigits d hd).seq (.right .empty)))
      exact ⟨_, rest, by simp, hnumber⟩
  | @point d rest hd =>
      have hpoint : Shape.Describes (.literal ['.']) ['.'] := Shape.describes_literal_iff.mpr rfl
      have hnumber := hmantissa (['.'] ++ [d]) (.right (hpoint.seq (hdigits d hd)))
      exact ⟨_, rest, by simp, hnumber⟩
  | @infinity rest =>
      exact ⟨_, rest, by simp, hsign'.seq (.left (Shape.describes_literal_iff.mpr rfl))⟩

/-- A strict numeral is how a text begins that begins like a number, all of it. -/
theorem opening_fits_of_strict (h : strict.fits cs = true) : opening.fits cs = true := by
  rw [Shape.fits_iff] at h ⊢
  obtain ⟨sign, rest, rfl, hsign, hrest⟩ := Shape.describes_seq_iff.mp h
  obtain ⟨t, u, rfl, ht, hu⟩ := Shape.describes_seq_iff.mp hrest
  exact hsign.seq (.right (ht.seq (Shape.describes_seq_empty_iff.mp hu)))

/-- A text is lenient if it begins like a number after white space. -/
theorem describes_lenient_iff : Shape.Describes lenient cs ↔
    ∃ blank before after, cs = blank ++ (before ++ after) ∧ (∀ c ∈ blank, isBlank c = true) ∧
      Shape.Describes opening before := by
  constructor
  · intro h
    obtain ⟨blank, rest, rfl, hblank, hrest⟩ := Shape.describes_seq_iff.mp h
    obtain ⟨sign, rest, rfl, hsign, hrest⟩ := Shape.describes_seq_iff.mp hrest
    obtain ⟨number, after, rfl, hnumber, -⟩ := Shape.describes_seq_iff.mp hrest
    exact ⟨blank, sign ++ number, after, by simp, Shape.describes_many_one_iff.mp hblank,
      hsign.seq hnumber⟩
  · rintro ⟨blank, before, after, rfl, hblank, hbefore⟩
    obtain ⟨sign, number, rfl, hsign, hnumber⟩ := Shape.describes_seq_iff.mp hbefore
    have hafter : Shape.Describes (.all [.anything]) after :=
      Shape.describes_seq_empty_iff.mpr .anything
    rw [List.append_assoc]
    exact (Shape.describes_many_one_iff.mpr hblank).seq (hsign.seq (hnumber.seq hafter))

/-- A text begins like a number if, after white space and at most one sign, it goes on with a digit, with a
point and a digit, or with the word for infinity. -/
theorem lenient_fits_iff :
    lenient.fits cs = true ↔ Begins (takeSign (cs.dropWhile isBlank)).2 := by
  rw [Shape.fits_iff, describes_lenient_iff]
  constructor
  · rintro ⟨blank, before, after, rfl, hblank, hbefore⟩
    obtain ⟨sign, number, rfl, hsign, hnumber⟩ := begins_of_opening hbefore
    have hbegins := hnumber.append after
    rw [List.append_assoc, hbegins.dropWhile_append hblank hsign, hbegins.takeSign_append hsign]
    exact hbegins
  · intro h
    obtain ⟨sign, hsign, heq⟩ := exists_isSign (cs.dropWhile isBlank)
    obtain ⟨before, after, hbefore, hopening⟩ := h.exists_opening hsign
    refine ⟨cs.takeWhile isBlank, before, after, ?_, fun c hc => List.mem_takeWhile_imp hc, hopening⟩
    rw [← hbefore, ← heq, List.takeWhile_append_dropWhile]

/-- A strict numeral with white space around it begins like a number after the white space before it. -/
theorem lenient_fits_of_strict (h : strict.fits (trim cs) = true) : lenient.fits cs = true := by
  have hopening := opening_fits_of_strict h
  rw [Shape.fits_iff] at hopening ⊢
  obtain ⟨rest, hrest⟩ := exists_dropWhile_eq_trim cs
  refine describes_lenient_iff.mpr ⟨cs.takeWhile isBlank, trim cs, rest, ?_,
    fun c hc => List.mem_takeWhile_imp hc, hopening⟩
  rw [← hrest, List.takeWhile_append_dropWhile]

end Numeral

/-! ## The checks -/

/-- Whatever has a number begins like one. -/
theorem Value.IsNumeric.startsWithNumber {v : Value} (h : v.IsNumeric) :
    v.startsWithNumber = true := by
  cases v with
  | text s => exact Numeral.lenient_fits_of_strict h
  | int | float => rfl
  | _ => exact h.elim

namespace Kind

variable {s : Surroundings} {value options fields : Value}

theorem isNumeric_of_judgeBound {compare : Number → Number → Bool}
    (h : judgeBound compare value options = true) : value.IsNumeric := by
  by_contra hnot
  simp [judgeBound, Value.toNumber?_of_not_isNumeric hnot] at h

theorem isNumeric_of_judgeRange (h : judgeRange value options = true) : value.IsNumeric := by
  by_contra hnot
  cases options <;> simp [judgeRange, Value.toNumber?_of_not_isNumeric hnot] at h

/-- What passes a bound or a range is a number to the check for numbers, whatever that is given. For a
text this is so since a strict numeral, with white space around it or not, is all of it what a text
begins with that begins like a number. And a text is a number to that check exactly if, after white space
and at most one sign, it goes on with a decimal digit, with a point and a decimal digit, or with the word
for infinity. -/
theorem bounded_is_number (s : Surroundings) (value options given fields : Value) :
    (∀ kind ∈ [max, min, range], kind.judge s value options fields = .ok (some true) →
      number.judge s value given fields = .ok (some true)) ∧
    (∀ cs, Numeral.strict.fits (trim cs) = true → Numeral.lenient.fits cs = true ∧
      Numeral.opening.fits (trim cs) = true ∧ ∃ rest, cs.dropWhile isBlank = trim cs ++ rest) ∧
    ∀ t, number.judge s (.text t) given fields = .ok (some true) ↔
      Numeral.Begins (takeSign (t.toList.dropWhile isBlank)).2 := by
  refine ⟨?_, fun cs hstrict => ?_, fun t => ?_⟩
  · intro kind hkind hpasses
    have hnumeric : value.IsNumeric := by
      simp only [List.mem_cons, List.not_mem_nil, or_false] at hkind
      rcases hkind with rfl | rfl | rfl <;>
        simp only [judge, Except.ok.injEq, Option.some.injEq] at hpasses
      · exact isNumeric_of_judgeBound hpasses
      · exact isNumeric_of_judgeBound hpasses
      · exact isNumeric_of_judgeRange hpasses
    simp only [judge, hnumeric.startsWithNumber]
  · exact ⟨Numeral.lenient_fits_of_strict hstrict, Numeral.opening_fits_of_strict hstrict,
      exists_dropWhile_eq_trim cs⟩
  · simp only [judge, Value.startsWithNumber, Except.ok.injEq, Option.some.injEq,
      Numeral.lenient_fits_iff]

/-- An Arabic three with a plus and a point, between an ideographic space and a wide one. -/
theorem bounded_arabic_number :
    number.judge .silent (.text "\u3000+\u0663.\u2003") .null .null =
        .ok (some true) ∧
      Numeral.lenient.fits "\u3000+\u0663.\u2003".toList = true := by
  obtain ⟨hnumber, htext, -⟩ := bounded_is_number .silent
    (.text "\u3000+\u0663.\u2003") (.int 5) .null .null
  have hbound : judgeBound Number.le (.text "\u3000+\u0663.\u2003") (.int 5) = true := by
    decide +kernel
  exact ⟨hnumber max (by simp) (by rw [judge, hbound]), (htext _ (by decide +kernel)).1⟩

end Kind

end FieldRules
