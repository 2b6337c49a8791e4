import FieldRules.Proofs.SingleRules

/-!
# Empty values

A field may be missing, or its value may count as false: the null value, the truth value false, a zero,
a text, a container or bytes without anything in them. Two groups of checks look out for such a value
before all else. The checks of addresses, dates and names come to no decision on it, so that a field
may be left empty under them. The checks of bounds and lengths refuse it, whatever the bound is.

What follows for a rule depends on how it is given. With options it is passed unless the check says no,
so that the first group passes and the second does not. A true flag is never passed. A false flag asks for
a no, and so it is passed under the second group and not under the first. No check is without a decision
in any other case.

## Main definitions

* `Value.IsEmpty` — the values that count as false
* `Kind.undecidedOnEmpty`, `Kind.refusingEmpty` — the two groups of checks

## Main statements

* `Kind.judge_eq_none_iff` — where a check comes to no decision
* `Library.empty_values_decided` — what becomes of the rules of both groups
-/

namespace FieldRules

namespace Value

/-- There is nothing in the value: it is the null value, false, a zero, or a container, a text or bytes
without members. -/
inductive IsEmpty : Value → Prop
  | null : IsEmpty .null
  | false : IsEmpty (.bool false)
  | whole : IsEmpty (.int 0)
  | zero : IsEmpty (.float (.finite 0))
  | negativeZero : IsEmpty (.float .negativeZero)
  | text : IsEmpty (.text "")
  | bytes : IsEmpty (.bytes [])
  | list : IsEmpty (.list [])
  | tuple : IsEmpty (.tuple [])
  | set : IsEmpty (.set [])
  | fixedSet : IsEmpty (.fixedSet [])
  | mapping : IsEmpty (.mapping [])

theorem isEmpty_of_isTruthy_eq_false {v : Value} (h : v.isTruthy = false) : v.IsEmpty := by
  cases v with
  | null => exact .null
  | bool b =>
      obtain rfl : b = false := h
      exact .false
  | int n =>
      obtain rfl : n = 0 := by simpa [isTruthy] using h
      exact .whole
  | float x =>
      have hzero : (Number.double x).rank? = some (.real 0) := by
        simpa [isTruthy, Number.isZero] using h
      cases x with
      | nan => cases hzero
      | infinity negative => cases negative <;> cases hzero
      | negativeZero => exact .negativeZero
      | finite q =>
          obtain rfl : q = 0 := Extended.real.inj (Option.some.inj hzero)
          exact .zero
  | text s =>
      obtain rfl : s = "" := by simpa [isTruthy] using h
      exact .text
  | bytes xs | list xs | tuple xs | set xs | fixedSet xs | mapping xs =>
      obtain rfl : xs = [] := by simpa [isTruthy] using h
      constructor
  | date | moment | function | named => cases h

theorem isTruthy_eq_false_iff {v : Value} : v.isTruthy = false ↔ v.IsEmpty := by
  refine ⟨isEmpty_of_isTruthy_eq_false, ?_⟩
  rintro ⟨⟩ <;> rfl

end Value

namespace Kind

/-- The checks that come to no decision on an empty value. -/
def undecidedOnEmpty : List Kind :=
  [.url, .date, .username, .dateOfBirth, .over16]

/-- The checks that refuse an empty value. -/
def refusingEmpty : List Kind :=
  [.max, .min, .length, .minLength, .maxLength, .range]

variable {s : Surroundings} {kind : Kind} {value given fields : Value}

theorem unlessEmpty_eq_none_iff {judgement : Except Failure Bool} :
    unlessEmpty value judgement = .ok none ↔ value.IsEmpty := by
  rw [← Value.isTruthy_eq_false_iff, unlessEmpty, Value.isFalsy]
  cases value.isTruthy <;> cases judgement <;> simp [Except.map]

/-- A comparison comes to a decision or to no answer at all. -/
theorem map_some_ne_none (judgement : Except Failure Bool) :
    judgement.map some ≠ (.ok none : Except Failure Verdict) := by
  cases judgement <;> simp [Except.map]

/-- The checks of the first group come to no decision on empty values, and no check does otherwise. -/
theorem judge_eq_none_iff :
    kind.judge s value given fields = .ok none ↔
      kind ∈ undecidedOnEmpty ∧ value.IsEmpty := by
  cases kind with
  | url | date | username | dateOfBirth | over16 =>
      simp [judge, unlessEmpty_eq_none_iff, undecidedOnEmpty]
  | required => cases value <;> simp [judge, undecidedOnEmpty]
  | equals | oneOf | sameAs => simp [judge, map_some_ne_none, undecidedOnEmpty]
  | _ => simp [judge, undecidedOnEmpty]

/-- The checks of the second group refuse empty values, whatever they are given. -/
theorem judge_of_refusingEmpty (hkind : kind ∈ refusingEmpty) (hempty : value.IsEmpty) :
    kind.judge s value given fields = .ok (some false) := by
  have hfalsy := Value.isTruthy_eq_false_iff.mpr hempty
  simp only [refusingEmpty, List.mem_cons, List.not_mem_nil, or_false] at hkind
  rcases hkind with rfl | rfl | rfl | rfl | rfl | rfl <;>
    simp [judge, judgeBound, judgeLength, judgeRange, hfalsy]

end Kind

namespace Library

variable {items : Mapping} {field : String}

/-- What becomes of the rules of a kind whose check says the same whatever it is given. -/
theorem decides_of_one_verdict {s : Surroundings} {kind : Kind} {verdict : Verdict}
    (hjudge : ∀ given, kind.judge s (Mapping.getOrNull items (.text field)) given
      (.mapping items) = .ok verdict) :
    (∀ given, (∀ b, given ≠ .bool b) →
      standard.Decides s items field kind.name given (verdict ≠ some false)) ∧
    ∀ b, standard.Decides s items field kind.name (.bool b) (verdict = some b) := by
  have hcheck : standard.check? (.text kind.name) = some (.builtin kind) := by
    rw [check?_standard, Kind.ofName?_name, Option.map_some]
  exact ⟨fun given hflag => decides_of_judge hcheck hflag (hjudge given),
    fun b => decides_flag_of_judge hcheck (hjudge (.bool b))⟩

/-- Under the kinds of the first group an empty value, or a missing field, passes every rule with options
and none of the two flags. Under those of the second group it passes no rule with options and no true
flag, but the false flag. No built-in check comes to no decision but those of the first group, and they
on empty values alone. -/
theorem empty_values_decided (s : Surroundings)
    (hempty : (Mapping.getOrNull items (.text field)).IsEmpty) :
    (∀ kind ∈ Kind.undecidedOnEmpty,
      (∀ given, (∀ b, given ≠ .bool b) → standard.Decides s items field kind.name given true) ∧
      standard.Decides s items field kind.name (.bool true) false ∧
      standard.Decides s items field kind.name (.bool false) false) ∧
    (∀ kind ∈ Kind.refusingEmpty,
      (∀ given, (∀ b, given ≠ .bool b) → standard.Decides s items field kind.name given false) ∧
      standard.Decides s items field kind.name (.bool true) false ∧
      standard.Decides s items field kind.name (.bool false) true) ∧
    ∀ (kind : Kind) s value given fields, kind.judge s value given fields = .ok none ↔
      kind ∈ Kind.undecidedOnEmpty ∧ value.IsEmpty := by
  refine ⟨fun kind hkind => ?_, fun kind hkind => ?_, fun _ _ _ _ _ => Kind.judge_eq_none_iff⟩
  · obtain ⟨hoptions, hflags⟩ := decides_of_one_verdict fun given =>
      Kind.judge_eq_none_iff.mpr ⟨hkind, hempty⟩
    exact ⟨hoptions, hflags true, hflags false⟩
  · obtain ⟨hoptions, hflags⟩ := decides_of_one_verdict fun given =>
      Kind.judge_of_refusingEmpty hkind hempty
    exact ⟨hoptions, hflags true, hflags false⟩

/-- A field that is missing passes the rule for addresses with options, and no upper bound. A flag that
is false it passes the other way round, whatever rules it stands among. -/
theorem empty_values_decided_missing :
    standard.validate .silent (.mapping [])
        (.raw (.mapping [(.text "site", .mapping [(.text "url", .null)])])) = ⟨[], .ok ⟨[], true⟩⟩ ∧
      standard.validate .silent (.mapping [])
        (.raw (.mapping [(.text "site", .mapping [(.text "max", .int 5)])])) =
          ⟨[], .ok ⟨[⟨"site", "max"⟩], true⟩⟩ ∧
      standard.Decides .silent [] "site" "url" (.bool false) false ∧
      standard.Decides .silent [] "site" "max" (.bool false) true := by
  have hempty : (Mapping.getOrNull [] (.text "site")).IsEmpty := .null
  obtain ⟨hundecided, hrefusing, -⟩ := empty_values_decided .silent hempty
  obtain ⟨hurl, -, hurlFlag⟩ := hundecided .url (by simp [Kind.undecidedOnEmpty])
  obtain ⟨hmax, -, hmaxFlag⟩ := hrefusing .max (by simp [Kind.refusingEmpty])
  exact ⟨(hurl .null nofun).alone, (hmax (.int 5) nofun).alone, hurlFlag, hmaxFlag⟩

end Library

end FieldRules
