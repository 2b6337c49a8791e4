import FieldRules.Check.Measure
import FieldRules.Proofs.CharacterRuns
import Mathlib.Data.List.TakeWhile

/-!
# Strict numerals are read

The number of a text is found in two steps that know nothing of each other. A shape tells whether the text
is a strict numeral, and the reader of doubles, which takes more than strict numerals, tells which double
it writes. Nothing is prepared for a strict numeral that the reader refuses: there the check of a bound
would not answer at all.

There is no such text. The shape describes exactly the texts of a sign, a mantissa and an exponent, and each
of them writes a decimal fraction. The reader takes the sign off, finds the end of the digits before the
point and of those after it, and stands before the exponent; no choice is made on the way that the shape
would not make as well. Digits of all scripts are digits to both. What the reader takes besides, the names
of infinity and of no number and groups of digits, is none of this: a strict numeral begins with a digit or
a point after its sign, and has no underscore.

## Main definitions

* `Numeral.WritesMantissa`, `Numeral.WritesExponent`, `Numeral.Writes` — the decimal fraction that a strict
  numeral writes, and those of its parts

## Main statements

* `Numeral.strict_fits_iff` — strict numerals are the texts that write a decimal fraction
* `Numeral.Writes.read?_eq` — the reader reads it
* `Value.strict_numerals_are_read` — the number of a text
-/

namespace FieldRules

open Text

namespace Text

variable {cs ds : List Char}

/-! ## Characters -/

/-- Classes whose ranges do not meet have no character in common. -/
theorem CharClass.has_eq_false_of_apart {p q : CharClass} {c : Char}
    (h : ∀ a ∈ p, ∀ b ∈ q, a.2 < b.1 ∨ b.2 < a.1) (hp : p.has c = true) : q.has c = false := by
  rw [Bool.eq_false_iff]
  intro hq
  obtain ⟨a, ha, hac⟩ := List.any_eq_true.mp hp
  obtain ⟨b, hb, hbc⟩ := List.any_eq_true.mp hq
  simp only [Bool.and_eq_true, decide_eq_true_eq] at hac hbc
  have hapart := h a ha b hb
  omega

/-- No digit of any script is white space. -/
theorem isBlank_of_decimal {c : Char} (h : isDigit c = true) : isBlank c = false := by
  rw [← has_digits] at h
  exact CharClass.has_eq_false_of_apart (by decide) h

/-- No digit of any script is a capital letter of ASCII. -/
theorem toLower_of_decimal {c : Char} (h : isDigit c = true) : c.toLower = c := by
  rw [← has_digits] at h
  have hcapital : Pattern.capital.has c = false := CharClass.has_eq_false_of_apart (by decide) h
  have hrange : ¬ (c.val ≥ 'A'.val ∧ c.val ≤ 'Z'.val) := fun hrange => by
    have hhas := CharClass.has_range_iff 'A' 'Z' c |>.mpr hrange
    rw [Pattern.capital, hhas] at hcapital
    cases hcapital
  exact dif_neg hrange

/-- White space is among the blanks. -/
theorem isSpace_of_isBlank_eq_false {c : Char} (h : isBlank c = false) : isSpace c = false := by
  simp only [isBlank, blanks, CharClass.has_append, Bool.or_eq_false_iff] at h
  exact h.1

section Trimming

variable {inClass : Char → Bool}

/-- Of a text without characters of a class those around it are trimmed. -/
theorem trimBy_append {before cs after : List Char} (hne : cs ≠ [])
    (h : ∀ c ∈ cs, inClass c = false) (hbefore : ∀ c ∈ before, inClass c = true)
    (hafter : ∀ c ∈ after, inClass c = true) : trimBy inClass (before ++ (cs ++ after)) = cs := by
  have hdrop : ∀ ds rest : List Char, ds ≠ [] → (∀ c ∈ ds, inClass c = false) →
      (ds ++ rest).dropWhile inClass = ds ++ rest := by
    intro ds rest hds hclass
    obtain ⟨d, ds, rfl⟩ := List.exists_cons_of_ne_nil hds
    simp [hclass d List.mem_cons_self]
  have hfront : (before ++ (cs ++ after)).dropWhile inClass = cs ++ after := by
    rw [List.dropWhile_append_of_pos hbefore, hdrop cs after hne h]
  have hback : (cs ++ after).reverse.dropWhile inClass = cs.reverse := by
    rw [List.reverse_append, List.dropWhile_append_of_pos (by simpa using hafter)]
    simpa using hdrop cs.reverse [] (by simpa using hne) (by simpa using h)
  rw [trimBy, hfront, hback, List.reverse_reverse]

/-- A text without such characters is not trimmed. -/
theorem trimBy_eq_self {cs : List Char} (h : ∀ c ∈ cs, inClass c = false) :
    trimBy inClass cs = cs := by
  by_cases hne : cs = []
  · simp [hne, trimBy]
  · have htrim : trimBy inClass ([] ++ (cs ++ [])) = cs := trimBy_append hne h (by simp) (by simp)
    rwa [List.nil_append, List.append_nil] at htrim

end Trimming

/-- What is no white space is not trimmed away. -/
theorem mem_trim {c : Char} (hc : isBlank c = false) (h : c ∈ cs) : c ∈ trim cs := by
  have hdrop : ∀ {ds : List Char}, c ∈ ds → c ∈ ds.dropWhile isBlank := by
    intro ds hds
    rw [← List.takeWhile_append_dropWhile (p := isBlank) (l := ds)] at hds
    refine (List.mem_append.mp hds).resolve_left fun htake => ?_
    rw [List.mem_takeWhile_imp htake] at hc
    cases hc
  rw [trim, trimBy, List.mem_reverse]
  exact hdrop (List.mem_reverse.mpr (hdrop h))

/-! ## Digits -/

theorem exists_natOfDigits?_iff : (∃ n, natOfDigits? ds = some n) ↔ ∀ c ∈ ds, isDigit c = true := by
  rw [← isSome_natOfDigits?_iff, Option.isSome_iff_exists]

theorem isDigit_of_natOfDigits? {n : Nat} (h : natOfDigits? ds = some n) :
    ∀ c ∈ ds, isDigit c = true :=
  exists_natOfDigits?_iff.mp ⟨n, h⟩

/-- Digits are taken up to the first character that is none. -/
theorem takeWhile_isDigit_append (h : ∀ c ∈ ds, isDigit c = true)
    (hcs : ∀ c ∈ cs.head?, isDigit c = false) :
    (ds ++ cs).takeWhile isDigit = ds ∧ (ds ++ cs).dropWhile isDigit = cs := by
  rw [List.takeWhile_append_of_pos h, List.dropWhile_append_of_pos h]
  cases cs with
  | nil => simp
  | cons c rest => simp [hcs c rfl]

end Text

/-- A text without underscores has no groups. -/
theorem ungroupFrom_eq_self {cs : List Char} (h : '_' ∉ cs) (afterDigit : Bool) :
    ungroupFrom afterDigit cs = some cs := by
  induction cs generalizing afterDigit with
  | nil => rfl
  | cons c rest ih =>
      obtain ⟨hc, hrest⟩ := List.ne_and_not_mem_of_not_mem_cons h
      simp [ungroupFrom, hc.symm, ih hrest]

namespace Numeral

variable {cs ds sign : List Char}

/-! ## What a strict numeral writes -/

/-- A sign, or none. -/
def IsSign (cs : List Char) : Prop :=
  cs = [] ∨ cs = ['+'] ∨ cs = ['-']

/-- Digits write a number, of which so many places stand after the point: all digits without a point, or
those before it and those after it, of which either may be missing. -/
inductive WritesMantissa : List Char → Nat → Nat → Prop
  | whole {ds : List Char} {n : Nat} (hne : ds ≠ []) (hn : natOfDigits? ds = some n) :
      WritesMantissa ds n 0
  | pointed {before after : List Char} {n : Nat} (hne : before ++ after ≠ [])
      (hn : natOfDigits? (before ++ after) = some n) :
      WritesMantissa (before ++ '.' :: after) n after.length

/-- A letter, a sign or none, and digits write a power of ten, and so does no text at all. -/
inductive WritesExponent : List Char → Int → Prop
  | none : WritesExponent [] 0
  | power {mark : Char} {sign ds : List Char} {n : Nat} (hmark : mark = 'e' ∨ mark = 'E')
      (hsign : IsSign sign) (hne : ds ≠ []) (hn : natOfDigits? ds = some n) :
      WritesExponent (mark :: (sign ++ ds)) (if sign = ['-'] then -(n : Int) else n)

/-- A sign or none, a mantissa and an exponent write a decimal fraction. -/
inductive Writes : List Char → Decimal → Prop
  | intro {sign mantissa exponent : List Char} {digits places : Nat} {power : Int}
      (hsign : IsSign sign) (hmantissa : WritesMantissa mantissa digits places)
      (hexponent : WritesExponent exponent power) :
      Writes (sign ++ (mantissa ++ exponent)) ⟨decide (sign = ['-']), digits, power - places⟩

theorem describes_sign_iff : Shape.Describes Numeral.sign cs ↔ IsSign cs := by
  have hchars : "+-".toList = ['+', '-'] := rfl
  simp only [Numeral.sign, Shape.maybe, Shape.describes_or_iff, Shape.describes_one_iff,
    CharClass.has_anyOf_iff, hchars, List.mem_cons, List.not_mem_nil, or_false,
    Shape.describes_empty_iff, IsSign]
  constructor
  · rintro (⟨c, rfl, rfl | rfl⟩ | rfl) <;> simp
  · rintro (rfl | rfl | rfl) <;> simp

theorem describes_digits_iff :
    Shape.Describes digits ds ↔ ds ≠ [] ∧ ∀ c ∈ ds, isDigit c = true := by
  simp only [digits, Shape.describes_oneOrMore_one_iff, has_digits]

theorem describes_fraction_iff :
    Shape.Describes (.seq (.literal ['.']) (.many (.one Text.digits))) cs ↔
      ∃ after, cs = '.' :: after ∧ ∀ c ∈ after, isDigit c = true := by
  rw [Shape.describes_seq_iff]
  simp only [Shape.describes_literal_iff, Shape.describes_many_one_iff, has_digits]
  constructor
  · rintro ⟨point, after, rfl, rfl, hafter⟩
    exact ⟨after, rfl, hafter⟩
  · rintro ⟨after, rfl, hafter⟩
    exact ⟨['.'], after, rfl, rfl, hafter⟩

theorem describes_mantissa_iff :
    Shape.Describes mantissa cs ↔ ∃ n places, WritesMantissa cs n places := by
  constructor
  · intro h
    rcases Shape.describes_or_iff.mp h with h | h <;>
      obtain ⟨t, u, rfl, ht, hu⟩ := Shape.describes_seq_iff.mp h
    · obtain ⟨hne, hdigits⟩ := describes_digits_iff.mp ht
      rcases Shape.describes_or_iff.mp hu with hu | hu
      · obtain ⟨after, rfl, hafter⟩ := describes_fraction_iff.mp hu
        obtain ⟨n, hn⟩ := exists_natOfDigits?_iff.mpr (List.forall_mem_append.mpr ⟨hdigits, hafter⟩)
        exact ⟨n, _, .pointed (List.append_ne_nil_of_left_ne_nil hne _) hn⟩
      · obtain rfl := Shape.describes_empty_iff.mp hu
        obtain ⟨n, hn⟩ := exists_natOfDigits?_iff.mpr hdigits
        exact ⟨n, 0, by simpa using .whole hne hn⟩
    · obtain rfl := Shape.describes_literal_iff.mp ht
      obtain ⟨hne, hdigits⟩ := describes_digits_iff.mp hu
      obtain ⟨n, hn⟩ := exists_natOfDigits?_iff.mpr hdigits
      exact ⟨n, u.length, @WritesMantissa.pointed [] u n hne hn⟩
  · rintro ⟨n, places, h⟩
    cases h with
    | whole hne hn =>
        have hdigits := describes_digits_iff.mpr ⟨hne, isDigit_of_natOfDigits? hn⟩
        rw [← List.append_nil cs]
        exact .left (hdigits.seq (.right .empty))
    | @pointed before after n hne hn =>
        obtain ⟨hbefore, hafter⟩ := List.forall_mem_append.mp (isDigit_of_natOfDigits? hn)
        by_cases hempty : before = []
        · subst hempty
          have hpoint : Shape.Describes (.literal ['.']) ['.'] := Shape.describes_literal_iff.mpr rfl
          exact .right (hpoint.seq (describes_digits_iff.mpr ⟨hne, hafter⟩))
        · exact .left ((describes_digits_iff.mpr ⟨hempty, hbefore⟩).seq
            (.left (describes_fraction_iff.mpr ⟨after, rfl, hafter⟩)))

theorem describes_exponent_iff :
    Shape.Describes exponent cs ↔ ∃ power, WritesExponent cs power := by
  have hmarks : "eE".toList = ['e', 'E'] := rfl
  have hmark : ∀ c, (CharClass.anyOf "eE").has c = true ↔ c = 'e' ∨ c = 'E' := by
    simp [CharClass.has_anyOf_iff, hmarks]
  constructor
  · intro h
    rcases Shape.describes_or_iff.mp h with h | h
    · obtain ⟨mark, rest, rfl, hm, hrest⟩ := Shape.describes_one_seq_iff.mp h
      obtain ⟨sign, ds, rfl, hsign, hds⟩ := Shape.describes_seq_iff.mp hrest
      obtain ⟨hne, hdigits⟩ := describes_digits_iff.mp (Shape.describes_seq_empty_iff.mp hds)
      obtain ⟨n, hn⟩ := exists_natOfDigits?_iff.mpr hdigits
      exact ⟨_, .power ((hmark mark).mp hm) (describes_sign_iff.mp hsign) hne hn⟩
    · obtain rfl := Shape.describes_empty_iff.mp h
      exact ⟨0, .none⟩
  · rintro ⟨power, h⟩
    cases h with
    | none => exact .right .empty
    | @power mark sign ds n hm hsign hne hn =>
        have hds := describes_digits_iff.mpr ⟨hne, isDigit_of_natOfDigits? hn⟩
        exact .left (Shape.describes_one_seq_iff.mpr ⟨mark, _, rfl, (hmark mark).mpr hm,
          (describes_sign_iff.mpr hsign).seq (Shape.describes_seq_empty_iff.mpr hds)⟩)

/-- The strict numerals are the texts that write a decimal fraction. -/
theorem strict_fits_iff : strict.fits cs = true ↔ ∃ d, Writes cs d := by
  rw [Shape.fits_iff]
  constructor
  · intro h
    obtain ⟨sign, rest, rfl, hsign, hrest⟩ := Shape.describes_seq_iff.mp h
    obtain ⟨t, u, rfl, ht, hu⟩ := Shape.describes_seq_iff.mp hrest
    obtain ⟨n, places, hmantissa⟩ := describes_mantissa_iff.mp ht
    obtain ⟨power, hexponent⟩ := describes_exponent_iff.mp (Shape.describes_seq_empty_iff.mp hu)
    exact ⟨_, .intro (describes_sign_iff.mp hsign) hmantissa hexponent⟩
  · rintro ⟨d, h⟩
    cases h with
    | intro hsign hmantissa hexponent =>
        have hrest := (describes_mantissa_iff.mpr ⟨_, _, hmantissa⟩).seq
          (Shape.describes_seq_empty_iff.mpr (describes_exponent_iff.mpr ⟨_, hexponent⟩))
        exact (describes_sign_iff.mpr hsign).seq hrest

/-! ## Their characters -/

/-- The characters of strict numerals that are no digits. -/
def marks : List Char := ['+', '-', '.', 'e', 'E']

theorem IsSign.subset_marks (h : IsSign cs) : cs ⊆ marks := by
  rcases h with rfl | rfl | rfl <;> simp [marks]

/-- A strict numeral is made of digits of any script and of marks. -/
theorem Writes.chars {d : Decimal} (h : Writes cs d) : ∀ c ∈ cs, isDigit c = true ∨ c ∈ marks := by
  have hdigits : ∀ {ds n}, natOfDigits? ds = some n → ∀ c ∈ ds, isDigit c = true ∨ c ∈ marks :=
    fun hn c hc => .inl (isDigit_of_natOfDigits? hn c hc)
  cases h with
  | intro hsign hmantissa hexponent =>
      refine List.forall_mem_append.mpr ⟨fun c hc => .inr (hsign.subset_marks hc),
        List.forall_mem_append.mpr ⟨?_, ?_⟩⟩
      · cases hmantissa with
        | whole _ hn => exact hdigits hn
        | pointed _ hn =>
            obtain ⟨hbefore, hafter⟩ := List.forall_mem_append.mp (hdigits hn)
            exact List.forall_mem_append.mpr
              ⟨hbefore, List.forall_mem_cons.mpr ⟨.inr (by simp [marks]), hafter⟩⟩
      · cases hexponent with
        | none => exact fun c hc => absurd hc List.not_mem_nil
        | power hmark hsign _ hn =>
            refine List.forall_mem_cons.mpr ⟨.inr ?_, List.forall_mem_append.mpr
              ⟨fun c hc => .inr (hsign.subset_marks hc), hdigits hn⟩⟩
            rcases hmark with rfl | rfl <;> simp [marks]

/-- There is no white space around a strict numeral, and none in it. -/
theorem Writes.isBlank_eq_false {d : Decimal} (h : Writes cs d) : ∀ c ∈ cs, isBlank c = false := by
  have hmarks : ∀ c ∈ marks, isBlank c = false := by
    simp only [marks, List.forall_mem_cons]
    exact ⟨rfl, rfl, rfl, rfl, rfl, List.forall_mem_nil _⟩
  exact fun c hc => (h.chars c hc).elim isBlank_of_decimal (hmarks c)

theorem Writes.trim_eq {d : Decimal} (h : Writes cs d) : trim cs = cs :=
  trimBy_eq_self h.isBlank_eq_false

theorem Writes.trimBy_isSpace_eq {d : Decimal} (h : Writes cs d) : trimBy isSpace cs = cs :=
  trimBy_eq_self fun c hc => isSpace_of_isBlank_eq_false (h.isBlank_eq_false c hc)

/-- No digits of a strict numeral are grouped. -/
theorem Writes.ungroup_eq {d : Decimal} (h : Writes cs d) : ungroup cs = some cs := by
  refine ungroupFrom_eq_self (fun hc => ?_) false
  exact absurd (h.chars '_' hc) (by decide)

/-! ## Reading -/

theorem takeSign_append (hsign : IsSign sign) (h : ∀ c ∈ cs.head?, c ≠ '+' ∧ c ≠ '-') :
    takeSign (sign ++ cs) = (decide (sign = ['-']), cs) := by
  rcases hsign with rfl | rfl | rfl
  · rw [List.nil_append]
    unfold takeSign
    split <;> simp_all
  · rfl
  · rfl

/-- No decimal digit is a sign. -/
theorem ne_sign_of_decimal {c : Char} (h : isDigit c = true) : c ≠ '+' ∧ c ≠ '-' := by
  constructor <;> rintro rfl <;> revert h <;> decide

/-- An exponent begins neither with a digit nor with a point, so that the mantissa ends before it. -/
theorem WritesExponent.head {power : Int} (h : WritesExponent cs power) :
    ∀ c ∈ cs.head?, isDigit c = false ∧ c ≠ '.' := by
  cases h with
  | none => exact fun c hc => by cases hc
  | @power mark _ _ _ hmark =>
      intro c hc
      obtain rfl : mark = c := Option.some.inj hc
      rcases hmark with rfl | rfl <;> decide

theorem WritesExponent.readExponent?_eq {power : Int} (h : WritesExponent cs power) :
    readExponent? cs = some power := by
  cases h with
  | none => rfl
  | @power mark sign ds n hmark hsign hne hn =>
      have hhead : ∀ c ∈ ds.head?, c ≠ '+' ∧ c ≠ '-' := fun c hc =>
        ne_sign_of_decimal (isDigit_of_natOfDigits? hn c (List.mem_of_mem_head? hc))
      simp [readExponent?, takeSign_append hsign hhead, hmark, hne, hn]

/-- A mantissa begins with a digit or with a point. -/
theorem WritesMantissa.exists_head {n places : Nat} (h : WritesMantissa cs n places) :
    ∃ c rest, cs = c :: rest ∧ (isDigit c = true ∨ c = '.') := by
  cases h with
  | whole hne hn =>
      obtain ⟨c, rest, rfl⟩ := List.exists_cons_of_ne_nil hne
      exact ⟨c, rest, rfl, .inl (isDigit_of_natOfDigits? hn c List.mem_cons_self)⟩
  | @pointed before after n hne hn =>
      cases before with
      | nil => exact ⟨'.', after, rfl, .inr rfl⟩
      | cons c rest =>
          exact ⟨c, rest ++ '.' :: after, rfl, .inl (isDigit_of_natOfDigits? hn c List.mem_cons_self)⟩

/-- A mantissa and an exponent are read as what they write. -/
theorem WritesMantissa.readDecimal?_eq {n places : Nat} (h : WritesMantissa cs n places)
    {exponent : List Char} {power : Int} (hexponent : WritesExponent exponent power)
    (negative : Bool) :
    readDecimal? negative (cs ++ exponent) = some ⟨negative, n, power - places⟩ := by
  have hpower := hexponent.readExponent?_eq
  have hdigit : ∀ c ∈ exponent.head?, isDigit c = false := fun c hc => (hexponent.head c hc).1
  cases h with
  | whole hne hn =>
      obtain ⟨htake, hdrop⟩ := takeWhile_isDigit_append (isDigit_of_natOfDigits? hn) hdigit
      have hpoint : takeFraction exponent = ([], exponent) := by
        unfold takeFraction
        split
        · exact absurd rfl (hexponent.head '.' rfl).2
        · rfl
      simp [readDecimal?, htake, hdrop, hpoint, hne, hn, hpower]
  | @pointed before after n hne hn =>
      obtain ⟨hbefore, hafter⟩ := List.forall_mem_append.mp (isDigit_of_natOfDigits? hn)
      have hpoint : ∀ c ∈ ('.' :: (after ++ exponent)).head?, isDigit c = false := fun c hc => by
        obtain rfl : '.' = c := Option.some.inj hc
        rfl
      obtain ⟨htake, hdrop⟩ := takeWhile_isDigit_append hbefore hpoint
      obtain ⟨htake', hdrop'⟩ := takeWhile_isDigit_append hafter hdigit
      have hsome : before = [] → after ≠ [] := by simpa using hne
      simpa [readDecimal?, htake, hdrop, takeFraction, htake', hdrop', hn, hpower] using hsome

/-- What begins with a digit or with a point is not the name of anything. -/
theorem lowerAscii_ne_name {c : Char} {rest : List Char} (h : isDigit c = true ∨ c = '.') :
    ∀ name ∈ ["inf", "infinity", "nan"], String.ofList (lowerAscii (c :: rest)) ≠ name := by
  intro name hname hsame
  have hchars : lowerAscii (c :: rest) = name.toList := by rw [← hsame, String.toList_ofList]
  have hlower : c.toLower = c := by
    rcases h with h | rfl
    · exact toLower_of_decimal h
    · rfl
  have hletters : c ≠ 'i' ∧ c ≠ 'n' := by
    constructor <;> rintro rfl <;> revert h <;> decide
  rw [lowerAscii, List.map_cons, hlower] at hchars
  simp only [List.mem_cons, List.not_mem_nil, or_false] at hname
  rcases hname with rfl | rfl | rfl <;> simp [hletters] at hchars

/-- After its sign a strict numeral begins with a digit or with a point, and what is read there is the
decimal fraction that it writes. -/
theorem Writes.exists_unsigned {d : Decimal} (h : Writes cs d) :
    ∃ c rest, (isDigit c = true ∨ c = '.') ∧ takeSign cs = (d.negative, c :: rest) ∧
      readDecimal? d.negative (c :: rest) = some d := by
  cases h with
  | @intro sign mantissa exponent n places power hsign hmantissa hexponent =>
      have hdecimal := hmantissa.readDecimal?_eq hexponent (decide (sign = ['-']))
      obtain ⟨c, rest, rfl, hc⟩ := hmantissa.exists_head
      refine ⟨c, rest ++ exponent, hc, takeSign_append hsign fun c' hc' => ?_, hdecimal⟩
      obtain rfl : c = c' := Option.some.inj hc'
      rcases hc with hc | rfl
      · exact ne_sign_of_decimal hc
      · decide

/-- A strict numeral is read as the double nearest to the decimal fraction that it writes. -/
theorem Writes.read?_eq {d : Decimal} (h : Writes cs d) (identity : Nat) :
    Double.read? identity cs = some d.toDouble := by
  obtain ⟨c, rest, hc, hsign, hdecimal⟩ := h.exists_unsigned
  have hname : ∀ name ∈ ["inf", "infinity", "nan"], String.ofList (lowerAscii (c :: rest)) ≠ name :=
    lowerAscii_ne_name hc
  simp only [Double.read?, h.trimBy_isSpace_eq, h.ungroup_eq, hsign, hdecimal, hname "inf" (by simp),
    hname "infinity" (by simp), hname "nan" (by simp)]
  simp

end Numeral

/-! ## Numbers of texts -/

namespace Double

variable (negative : Bool) (i : Nat)

theorem zero_ne_nan : zero negative ≠ .nan i := by
  cases negative <;> simp [zero]

theorem nearest_ne_nan (num den : Nat) : nearest negative num den ≠ .nan i := by
  have hbinary : ∀ digits exponent, ofBinary negative digits exponent ≠ .nan i := by
    intro digits exponent
    simp only [ofBinary]
    split_ifs <;> simp [zero_ne_nan]
  simp only [nearest]
  split
  · exact zero_ne_nan negative i
  · exact hbinary _ _

end Double

/-- The double nearest to a decimal fraction is a number, or an infinity beyond all doubles. -/
theorem Decimal.toDouble_ne_nan (d : Decimal) (i : Nat) : d.toDouble ≠ .nan i := by
  simp only [toDouble]
  split_ifs <;> simp [Double.zero_ne_nan, Double.nearest_ne_nan]

namespace Value

variable {s : String}

/-- The number of a strict numeral with white space around it or not. -/
theorem toNumber?_of_writes {d : Decimal} (h : Numeral.Writes (trim s.toList) d) :
    (Value.text s).toNumber? = some (.double d.toDouble) := by
  have hfits := Numeral.strict_fits_iff.mpr ⟨d, h⟩
  simp [toNumber?, numberOfText?, hfits, h.read?_eq]

theorem toNumber?_of_not_fits (h : Numeral.strict.fits (trim s.toList) = false) :
    (Value.text s).toNumber? = none := by
  simp [toNumber?, numberOfText?, h]

/-- A text that is a strict numeral, white space around it aside, is read, whatever its length, the scripts
of its digits and the places of its sign, its point and its exponent. It is read as the double nearest to
the decimal fraction that it writes, which is never the result that is no number, and this is its number.
No other text has a number, in particular no text of white space, none with an underscore, and none that is
the name of infinity or of no number, in letters of either case and with a sign or without. -/
theorem strict_numerals_are_read (identity : Nat) (s : String) :
    (Numeral.strict.fits (trim s.toList) = true →
      ∃ d, Numeral.Writes (trim s.toList) d ∧
        Double.read? identity (trim s.toList) = some d.toDouble ∧ (∀ i, d.toDouble ≠ .nan i) ∧
        (Value.text s).toNumber? = some (.double d.toDouble)) ∧
    (Numeral.strict.fits (trim s.toList) = false → (Value.text s).toNumber? = none) ∧
    (trim s.toList = [] ∨ '_' ∈ s.toList ∨
        String.ofList (lowerAscii (takeSign (trim s.toList)).2) ∈ ["inf", "infinity", "nan"] →
      (Value.text s).toNumber? = none) := by
  refine ⟨fun hfits => ?_, toNumber?_of_not_fits, fun hother => toNumber?_of_not_fits ?_⟩
  · obtain ⟨d, hd⟩ := Numeral.strict_fits_iff.mp hfits
    exact ⟨d, hd, hd.read?_eq identity, d.toDouble_ne_nan, toNumber?_of_writes hd⟩
  · rw [Bool.eq_false_iff, ne_eq, Numeral.strict_fits_iff]
    rintro ⟨d, hd⟩
    obtain ⟨c, rest, hc, hsign, -⟩ := hd.exists_unsigned
    rcases hother with hempty | hgroup | hname
    · rw [hempty] at hsign
      exact absurd (Prod.mk.inj hsign).2 (List.cons_ne_nil c rest).symm
    · exact absurd (hd.chars '_' (mem_trim (by decide) hgroup)) (by decide)
    · rw [hsign] at hname
      exact Numeral.lowerAscii_ne_name hc _ hname rfl

/-- A number with digits of three scripts, a point without digits after it and an exponent, between two
sorts of white space, and texts that the reader alone would take. -/
theorem strict_numerals_are_read_scripts :
    (∃ x, Double.read? 0 (trim "\u3000-\u06613.e+\uFF12\t".toList) = some x ∧ (∀ i, x ≠ .nan i) ∧
        (Value.text "\u3000-\u06613.e+\uFF12\t").toNumber? = some (.double x)) ∧
      Double.read? 0 " -NaN".toList = some (.nan 0) ∧ (Value.text " -NaN").toNumber? = none ∧
      Double.read? 0 "1_0".toList ≠ none ∧ (Value.text "1_0").toNumber? = none := by
  obtain ⟨hread, -, -⟩ := strict_numerals_are_read 0 "\u3000-\u06613.e+\uFF12\t"
  obtain ⟨d, -, hd, hnan, hnumber⟩ := hread (by decide +kernel)
  obtain ⟨-, -, hname⟩ := strict_numerals_are_read 0 " -NaN"
  obtain ⟨-, -, hgroup⟩ := strict_numerals_are_read 0 "1_0"
  exact ⟨⟨_, hd, hnan, hnumber⟩, rfl, hname (.inr (.inr (by decide +kernel))), by decide +kernel,
    hgroup (.inr (.inl (by decide)))⟩

end Value

end FieldRules
