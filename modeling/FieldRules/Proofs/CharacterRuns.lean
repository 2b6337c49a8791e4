import FieldRules.Check.Pattern
import Mathlib.Data.List.Basic
import Mathlib.Tactic.Tauto

/-!
# Runs of characters of one class

Most shapes are made of runs: so many characters of one class, between a least and a greatest number, or
any number of them. What such a shape describes is said by the length of a text and by its characters
alone. The classes of the patterns are those of ASCII, and are told here by the predicates for letters and
digits that stop at ASCII as well.

## Main statements

* `Shape.describes_between_one_iff`, `Shape.describes_oneOrMore_one_iff` — the texts that are runs
* `Pattern.has_mailboxChar_iff`, `Pattern.has_hostChar_iff`, `Pattern.has_pathChar_iff`,
  `Pattern.has_endingChar_iff` — the classes of the patterns
-/

namespace FieldRules

open Text

namespace Text

theorem CharClass.has_anyOf_iff {t : String} {c : Char} :
    (CharClass.anyOf t).has c = true ↔ c ∈ t.toList := by
  have hany : (CharClass.anyOf t).has c = t.toList.any fun d => (CharClass.just d).has c :=
    List.any_flatMap
  simp [hany]

/-- A class whose ranges end below a code point has no characters from there on. -/
theorem CharClass.toNat_lt_of_has {cls : CharClass} {n : Nat} (hcls : ∀ bounds ∈ cls, bounds.2 < n)
    {c : Char} (h : cls.has c = true) : c.toNat < n := by
  obtain ⟨bounds, hbounds, hinside⟩ := List.any_eq_true.mp h
  rw [Bool.and_eq_true, decide_eq_true_eq, decide_eq_true_eq] at hinside
  exact Nat.lt_of_le_of_lt hinside.2 (hcls bounds hbounds)

namespace Shape

variable {cls : CharClass} {s : List Char}

/-- One character of a class comes first. -/
theorem describes_one_seq_iff {q : Shape} :
    Describes (.seq (.one cls) q) s ↔
      ∃ c rest, s = c :: rest ∧ cls.has c = true ∧ Describes q rest := by
  rw [describes_seq_iff]
  constructor
  · intro ⟨t, rest, hs, ht, hrest⟩
    obtain ⟨c, rfl, hc⟩ := describes_one_iff.mp ht
    exact ⟨c, rest, hs, hc, hrest⟩
  · intro ⟨c, rest, hs, hc, hrest⟩
    exact ⟨[c], rest, hs, .one hc, hrest⟩

theorem describes_one_seq_cons_iff {q : Shape} {c : Char} {rest : List Char} :
    Describes (.seq (.one cls) q) (c :: rest) ↔ cls.has c = true ∧ Describes q rest := by
  simp [describes_one_seq_iff]

theorem not_describes_one_seq_nil {q : Shape} : ¬ Describes (.seq (.one cls) q) [] := by
  simp [describes_one_seq_iff]

theorem describes_literal_iff {t : List Char} : Describes (.literal t) s ↔ s = t := by
  induction t generalizing s with
  | nil => exact describes_empty_iff
  | cons c rest ih =>
      cases s with
      | nil => simp [literal, not_describes_one_seq_nil]
      | cons d s => simp [literal, describes_one_seq_cons_iff, ih]

theorem describes_many_one_iff : Describes (.many (.one cls)) s ↔ ∀ c ∈ s, cls.has c = true := by
  induction s with
  | nil => simp [Describes.done]
  | cons c rest ih => simp [describes_many_cons_iff, ← ih]

theorem describes_oneOrMore_one_iff :
    Describes (.oneOrMore (.one cls)) s ↔ s ≠ [] ∧ ∀ c ∈ s, cls.has c = true := by
  cases s with
  | nil => simp [oneOrMore, not_describes_one_seq_nil]
  | cons c rest => simp [oneOrMore, describes_one_seq_cons_iff, describes_many_one_iff]

theorem describes_times_one_iff {n : Nat} :
    Describes (.times (.one cls) n) s ↔ s.length = n ∧ ∀ c ∈ s, cls.has c = true := by
  induction n generalizing s with
  | zero =>
      rw [times, describes_empty_iff, List.length_eq_zero_iff, iff_self_and]
      intro hs
      simp [hs]
  | succ n ih =>
      cases s with
      | nil => simp [times, not_describes_one_seq_nil]
      | cons c rest => simp [times, describes_one_seq_cons_iff, ih, and_left_comm]

theorem describes_upTo_one_iff {n : Nat} :
    Describes (.upTo (.one cls) n) s ↔ s.length ≤ n ∧ ∀ c ∈ s, cls.has c = true := by
  induction n generalizing s with
  | zero =>
      rw [upTo, describes_empty_iff, Nat.le_zero, List.length_eq_zero_iff, iff_self_and]
      intro hs
      simp [hs]
  | succ n ih =>
      rw [upTo, maybe, describes_or_iff, describes_empty_iff]
      cases s with
      | nil => simp
      | cons c rest => simp [describes_one_seq_cons_iff, ih, and_left_comm]

/-- A run has any length between the least and the greatest. -/
theorem describes_between_one_iff {low extra : Nat} :
    Describes ((Shape.one cls).between low extra) s ↔
      low ≤ s.length ∧ s.length ≤ low + extra ∧ ∀ c ∈ s, cls.has c = true := by
  simp only [between, describes_seq_iff, describes_times_one_iff, describes_upTo_one_iff]
  constructor
  · rintro ⟨t, u, rfl, ⟨ht, htall⟩, hu, huall⟩
    rw [List.length_append]
    exact ⟨by omega, by omega, List.forall_mem_append.mpr ⟨htall, huall⟩⟩
  · intro ⟨hlow, hhigh, hall⟩
    refine ⟨s.take low, s.drop low, (List.take_append_drop low s).symm, ⟨?_, ?_⟩, ?_, ?_⟩
    · simp [hlow]
    · intro c hc
      exact hall c (List.mem_of_mem_take hc)
    · rw [List.length_drop]
      omega
    · intro c hc
      exact hall c (List.mem_of_mem_drop hc)

end Shape

end Text

/-! ## Classes of ASCII -/

section Classes

variable (c : Char)

theorem Text.has_asciiDigits_eq : asciiDigits.has c = c.isDigit :=
  (has_asciiDigits c).trans rfl

namespace Pattern

theorem has_small : small.has c = c.isLower := by
  have hlower : c.isLower = (decide ('a' ≤ c) && decide (c ≤ 'z')) := rfl
  rw [Bool.eq_iff_iff, small, CharClass.has_range_iff, hlower]
  simp

theorem has_capital : capital.has c = c.isUpper := by
  have hupper : c.isUpper = decide ('A' ≤ c ∧ c ≤ 'Z') := rfl
  rw [Bool.eq_iff_iff, capital, CharClass.has_range_iff, hupper]
  simp

/-- The letters and digits of ASCII and the underscore. -/
theorem has_wordChar_iff : wordChar.has c = true ↔ c.isAlphanum = true ∨ c = '_' := by
  have halpha : c.isAlphanum = (c.isUpper || c.isLower || c.isDigit) := rfl
  simp only [wordChar, CharClass.has_append, Bool.or_eq_true, has_small, has_capital,
    has_asciiDigits_eq, CharClass.has_just_iff, halpha]
  tauto

theorem has_mailboxChar_iff :
    mailboxChar.has c = true ↔ c.isAlphanum = true ∨ c ∈ "_.+-".toList := by
  have hmore : ".-+".toList = ['.', '-', '+'] := rfl
  have hall : "_.+-".toList = ['_', '.', '+', '-'] := rfl
  simp only [mailboxChar, CharClass.has_append, Bool.or_eq_true, has_wordChar_iff,
    CharClass.has_anyOf_iff, hmore, hall, List.mem_cons, List.not_mem_nil, or_false]
  tauto

theorem has_hostChar_iff :
    hostChar.has c = true ↔ c.isLower = true ∨ c.isDigit = true ∨ c ∈ ".-".toList := by
  simp only [hostChar, CharClass.has_append, Bool.or_eq_true, has_small, has_asciiDigits_eq,
    CharClass.has_anyOf_iff, or_assoc]

theorem has_pathChar_iff : pathChar.has c = true ↔ c.isAlphanum = true ∨ c ∈ "/_ .-".toList := by
  have hmore : "/ .-".toList = ['/', ' ', '.', '-'] := rfl
  have hall : "/_ .-".toList = ['/', '_', ' ', '.', '-'] := rfl
  simp only [pathChar, CharClass.has_append, Bool.or_eq_true, has_wordChar_iff,
    CharClass.has_anyOf_iff, hmore, hall, List.mem_cons, List.not_mem_nil, or_false]
  tauto

theorem has_endingChar_iff : endingChar.has c = true ↔ c.isLower = true ∨ c = '.' := by
  simp only [endingChar, CharClass.has_append, Bool.or_eq_true, has_small, CharClass.has_just_iff]

end Pattern

end Classes

end FieldRules
