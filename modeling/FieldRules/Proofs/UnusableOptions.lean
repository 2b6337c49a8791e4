import FieldRules.Proofs.SchemaFaults

/-!
# Options that a check cannot use

A check with options may be given some that it can do nothing with: a bound that is no number, a range
without ends, a choice from nothing that can be gone through, another field without a name. That is no
fault of the schema. The check says no to every value then, to an empty one as well, and the rule
is noted in the report.

There is one exception. A rule that compares with another field and does not name it compares with no
value, and so it passes for the null value and for a missing field.

## Main definitions

* `Value.IsNumeric` — numbers, and the texts that write one
* `Kind.CannotUse` — the options that a check cannot use

## Main statements

* `Kind.judge_of_cannotUse`, `Kind.judge_sameAs_of_no_text` — what the checks say
* `Library.validate_oneRule` — the report on a schema of one rule
* `Library.passes_of_builtin`, `Library.validate_single` — one rule of a built-in kind
* `Library.noted_of_judge_eq_false` — a report notes each rule whose check says no
* `Library.refuses_of_cannotUse` — checks and reports together
-/

namespace FieldRules

namespace Value

/-- The value is a number, or a text that is a strict numeral, white space around it aside. -/
def IsNumeric : Value → Prop
  | .int _ | .float _ => True
  | .text s => Numeral.strict.fits (Text.trim s.toList) = true
  | _ => False

/-- The value is a list, a tuple or a set. -/
def IsCollection : Value → Prop
  | .list _ | .tuple _ | .set _ | .fixedSet _ => True
  | _ => False

theorem toNumber?_of_not_isNumeric {v : Value} (h : ¬ v.IsNumeric) : v.toNumber? = none := by
  cases v with
  | int n => exact absurd trivial h
  | float x => exact absurd trivial h
  | text s =>
      replace h : ¬ Numeral.strict.fits (Text.trim s.toList) = true := h
      simp [toNumber?, numberOfText?, h]
  | _ => rfl

/-- Only the null value compares as equal to it. -/
theorem deepEqual_null_iff {v : Value} : v.deepEqual .null = true ↔ v = .null := by
  cases v with
  | bool b => simp [deepEqual, deepEqualAtom, number?, strictEqual, isBool]
  | _ => simp [deepEqual, deepEqualAtom, number?, strictEqual, kindName, equal, isNan, same, sameAtom]

end Value

namespace Kind

/-- The options that a check cannot use. -/
def CannotUse (options : Value) : Kind → Prop
  | .max | .min | .length | .minLength | .maxLength => ¬ options.IsNumeric
  | .range =>
    ∀ entries, options = .mapping entries →
      ∃ side ∈ ["from", "to"], ¬ (Mapping.getOrNull entries (.text side)).IsNumeric
  | .oneOf => (∀ t, options ≠ .text t) ∧ ¬ options.IsCollection
  | .sameAs => ∀ x, options ≠ .text x
  | _ => False

variable {s : Surroundings} {kind : Kind} {value options fields : Value}

theorem judgeBound_of_not_isNumeric (compare : Number → Number → Bool) (h : ¬ options.IsNumeric) :
    judgeBound compare value options = false := by
  simp only [judgeBound, Value.toNumber?_of_not_isNumeric h]
  cases value.toNumber? <;> simp

theorem judgeLength_of_not_isNumeric (compare : Number → Number → Bool) (h : ¬ options.IsNumeric) :
    judgeLength compare value options = false := by
  simp only [judgeLength, Value.toNumber?_of_not_isNumeric h]
  cases value.length? <;> simp

theorem judgeRange_of_cannotUse (h : CannotUse options .range) : judgeRange value options = false := by
  cases options with
  | mapping entries =>
      obtain ⟨side, hside, hnumeric⟩ := h entries rfl
      have hnone := Value.toNumber?_of_not_isNumeric hnumeric
      simp only [List.mem_cons, List.not_mem_nil, or_false] at hside
      rcases hside with rfl | rfl
      · simp only [judgeRange, hnone]
        cases value.toNumber? <;> simp
      · simp only [judgeRange, hnone]
        cases value.toNumber? <;>
          cases (Mapping.getOrNull entries (.text "from")).toNumber? <;> simp
  | _ => simp [judgeRange]

theorem judgeOneOf_of_cannotUse (stack : Stack) (h : CannotUse options .oneOf) :
    judgeOneOf stack value options = .ok false := by
  obtain ⟨htext, hcollection⟩ := h
  cases options with
  | text t => exact absurd rfl (htext t)
  | list | tuple | set | fixedSet => exact absurd trivial hcollection
  | _ => rfl

/-- Options that name no field are compared as no value, whatever the fields are. -/
theorem judge_sameAs_of_no_text (h : ∀ x, options ≠ .text x) :
    Kind.sameAs.judge s value options fields = .ok (some (value.deepEqual .null)) := by
  have hfield : namedField options fields = .ok .null := by
    obtain ⟨x, rfl, -⟩ | ⟨-, hnull⟩ := namedField_eq options []
    · exact absurd rfl (h x)
    · exact hnull fields
  have hanswer : value.compareDeep s.stack 0 .null = .ok (value.deepEqual .null) :=
    Value.compareDeep_eq_ok_iff.mpr ⟨Stack.not_endsIn_of_depth_eq_zero (.inr rfl), rfl⟩
  simp only [judge, judgeSameAs, hfield, Except.bind, hanswer, Except.map]

/-- A check says no to every value if it cannot use the options, except that the null value passes
for the value of a field that is not named. -/
theorem judge_of_cannotUse (h : kind.CannotUse options) (hvalue : kind = .sameAs → value ≠ .null) :
    kind.judge s value options fields = .ok (some false) := by
  cases kind with
  | max | min => simp only [judge, judgeBound_of_not_isNumeric _ h]
  | length | minLength | maxLength => simp only [judge, judgeLength_of_not_isNumeric _ h]
  | range => simp only [judge, judgeRange_of_cannotUse h]
  | oneOf => simp only [judge, judgeOneOf_of_cannotUse s.stack h, Except.map]
  | sameAs =>
      have hdiffers : value.deepEqual .null = false := by
        rw [Bool.eq_false_iff, ne_eq, Value.deepEqual_null_iff]
        exact hvalue rfl
      rw [judge_sameAs_of_no_text h, hdiffers]
  | _ => exact absurd h id

end Kind

/-! ## Reports -/

namespace Library

variable {lib : Library} {s : Surroundings} {kind : Kind} {options : Value} {items : Mapping}

/-- A rule of a built-in kind passes on what its check says, and calls nothing. -/
theorem passes_of_builtin {value fields : Value} {rule : Rule} (hrule : ¬ rule.IsInline)
    (hcheck : lib.check? (.text rule.kind) = some (.builtin kind)) :
    lib.passes s fields value rule =
      ⟨[], (kind.judge s value rule.given fields).map fun verdict =>
        rule.accepts verdict.toValue⟩ := by
  rw [passes_of_check? hrule hcheck]
  cases h : kind.judge s value rule.given fields <;>
    simp [Check.run, h, Run.ofResult, Except.map]

/-- A value does not pass a rule with options if the built-in check says no. -/
theorem passes_of_judge_eq_false {value fields : Value}
    (hcheck : lib.check? (.text kind.name) = some (.builtin kind))
    (hjudge : kind.judge s value options fields = .ok (some false)) :
    lib.passes s fields value (.options kind.name options) = ⟨[], .ok false⟩ := by
  rw [passes_of_builtin (by rintro ⟨_, _, ⟨⟩⟩) hcheck, Rule.given, hjudge]
  rfl

/-- A raw rule of a known kind is compiled to options as it is, unless it is a flag. -/
theorem CompilesRule.eq_options {name : String} {rule : Rule}
    (hrule : CompilesRule lib (.text name, options) rule) (hflag : ∀ b, options ≠ .bool b)
    (hknown : lib.contains (.text name) = true) : rule = .options name options := by
  cases hrule with
  | flag => exact absurd rfl (hflag _)
  | options _ htext =>
      obtain rfl := Except.ok.inj htext
      rfl
  | inline hunknown => simp [hunknown] at hknown

theorem contains_of_check?_eq_some {key : Value} {check : Check} (h : lib.check? key = some check) :
    lib.contains key = true := by
  rw [contains_eq_isSome_listing?]
  cases hlisting : lib.listing? key with
  | none => simp [check?, hlisting] at h
  | some listing => rfl

/-- A report notes each rule whose check says no. -/
theorem noted_of_judge_eq_false {field : String} {raw rules : Mapping}
    (hfield : (.text field, .mapping rules) ∈ raw) (hrule : (.text kind.name, options) ∈ rules)
    (hflag : ∀ b, options ≠ .bool b)
    (hcheck : lib.check? (.text kind.name) = some (.builtin kind))
    (hjudge : kind.judge s (Mapping.getOrNull items (.text field)) options (.mapping items) =
      .ok (some false))
    {report : Report}
    (hreport : (lib.validate s (.mapping items) (.raw (.mapping raw))).result = .ok report) :
    ⟨field, kind.name⟩ ∈ report.findings := by
  obtain ⟨schema, hcompile⟩ := exists_compile_of_validate_eq_ok hreport
  obtain ⟨-, rfl⟩ := (validate_result_eq_ok_iff hcompile).mp hreport
  obtain ⟨entry, hentry, hcompiled⟩ :=
    exists_mem_right_of_forall₂ ((compile_raw_eq_ok_iff raw schema).mp hcompile) hfield
  cases hcompiled with
  | ruleSet htext heach =>
      obtain rfl := Except.ok.inj htext
      obtain ⟨rule, hmem, hcompiled⟩ := exists_mem_right_of_forall₂ heach hrule
      obtain rfl := hcompiled.eq_options hflag (contains_of_check?_eq_some hcheck)
      have hfails := passes_of_judge_eq_false hcheck hjudge
      have htrial : ⟨⟨field, kind.name⟩, ⟨[], .ok false⟩⟩ ∈ schema.trials s lib items := by
        refine List.mem_flatMap.mpr ⟨_, hentry, List.mem_map.mpr ⟨_, hmem, ?_⟩⟩
        simp only [Entry.field, hfails]
        rfl
      exact Trial.mem_noted_iff.mpr ⟨_, htrial, rfl, rfl⟩

theorem CompilesRule.kind_eq {name : String} {given : Value} {rule : Rule}
    (hrule : CompilesRule lib (.text name, given) rule) : rule.kind = name := by
  cases hrule with
  | flag _ htext | options _ htext | inline _ htext => exact (Except.ok.inj htext).symm

/-- A schema of one rule has a report on this rule alone. -/
theorem validate_oneRule {field name : String} {given : Value} {rule : Rule} {passed : Run Bool}
    (hrule : CompilesRule lib (.text name, given) rule)
    (hpassed : lib.passes s (.mapping items) (Mapping.getOrNull items (.text field)) rule = passed) :
    lib.validate s (.mapping items)
        (.raw (.mapping [(.text field, .mapping [(.text name, given)])])) =
      ⟨passed.calls, passed.result.map fun passes =>
        ⟨if passes then [] else [⟨field, name⟩], true⟩⟩ := by
  have hcompile : lib.compile (.raw (.mapping [(.text field, .mapping [(.text name, given)])])) =
      .ok ⟨[.ruleSet field [rule]]⟩ :=
    (compile_raw_eq_ok_iff ..).mpr (.cons (.ruleSet rfl (.cons hrule .nil)) .nil)
  have htrials : Schema.trials s lib items ⟨[.ruleSet field [rule]]⟩ =
      [⟨⟨field, name⟩, passed⟩] := by
    rw [← hpassed, ← hrule.kind_eq]
    rfl
  cases hresult : passed.result with
  | error failure =>
      have hfirst : Schema.trials s lib items ⟨[.ruleSet field [rule]]⟩ =
          [] ++ [⟨⟨field, name⟩, passed⟩] := htrials
      rw [validate_of_failure hcompile hfirst (by simp) hresult]
      rfl
  | ok b =>
      rw [validate_of_answered hcompile (by simp [htrials, Trial.IsAnswered, hresult]), htrials]
      cases b <;> simp [Trial.calls, Trial.noted, Trial.isFailed, hresult, Except.map]

/-- A schema of one rule with options has a report on this rule alone. -/
theorem validate_single {field name : String} {passed : Run Bool} (hflag : ∀ b, options ≠ .bool b)
    (hknown : lib.contains (.text name) = true)
    (hpassed : lib.passes s (.mapping items) (Mapping.getOrNull items (.text field))
      (.options name options) = passed) :
    lib.validate s (.mapping items)
        (.raw (.mapping [(.text field, .mapping [(.text name, options)])])) =
      ⟨passed.calls, passed.result.map fun passes =>
        ⟨if passes then [] else [⟨field, name⟩], true⟩⟩ :=
  validate_oneRule (.options hknown rfl hflag) hpassed

/-- A schema of one rule whose check says no notes this rule and nothing else. -/
theorem validate_of_judge_eq_false (field : String) (hflag : ∀ b, options ≠ .bool b)
    (hcheck : lib.check? (.text kind.name) = some (.builtin kind))
    (hjudge : kind.judge s (Mapping.getOrNull items (.text field)) options (.mapping items) =
      .ok (some false)) :
    lib.validate s (.mapping items)
        (.raw (.mapping [(.text field, .mapping [(.text kind.name, options)])])) =
      ⟨[], .ok ⟨[⟨field, kind.name⟩], true⟩⟩ :=
  validate_single hflag (contains_of_check?_eq_some hcheck) (passes_of_judge_eq_false hcheck hjudge)

/-- A check says no to every value, whatever the fields are, if it cannot use its options, and its rule
is then noted in every report; a schema of this rule alone has such a report. Only the null value, and
with it a missing field, passes for the value of a field that is not named. -/
theorem refuses_of_cannotUse (hcannot : kind.CannotUse options)
    (hcheck : lib.check? (.text kind.name) = some (.builtin kind)) :
    (∀ s value fields, (kind = .sameAs → value ≠ .null) →
      kind.judge s value options fields = .ok (some false)) ∧
    (kind = .sameAs → ∀ s fields,
      kind.judge s .null options fields = .ok (some true)) ∧
    ∀ s items field, (∀ b, options ≠ .bool b) →
      (kind = .sameAs → Mapping.getOrNull items (.text field) ≠ .null) →
      (∀ raw rules report, (.text field, .mapping rules) ∈ raw →
        (.text kind.name, options) ∈ rules →
        (lib.validate s (.mapping items) (.raw (.mapping raw))).result = .ok report →
        ⟨field, kind.name⟩ ∈ report.findings) ∧
      lib.validate s (.mapping items)
          (.raw (.mapping [(.text field, .mapping [(.text kind.name, options)])])) =
        ⟨[], .ok ⟨[⟨field, kind.name⟩], true⟩⟩ := by
  refine ⟨fun _ _ _ => Kind.judge_of_cannotUse hcannot, ?_, ?_⟩
  · rintro rfl s fields
    rw [Kind.judge_sameAs_of_no_text hcannot]
    rfl
  · intro s items field hflag hvalue
    have hjudge : kind.judge s (Mapping.getOrNull items (.text field)) options
        (.mapping items) = .ok (some false) := Kind.judge_of_cannotUse hcannot hvalue
    constructor
    · intro raw rules report hfield hrule hreport
      exact noted_of_judge_eq_false hfield hrule hflag hcheck hjudge hreport
    · exact validate_of_judge_eq_false field hflag hcheck hjudge

/-- A range without an upper end is of no use, even to a value that is missing. -/
theorem refuses_openRange :
    Kind.range.judge .silent .null
        (.mapping [(.text "from", .int 1)]) (.mapping []) = .ok (some false) ∧
      standard.validate .silent (.mapping []) (.raw (.mapping [(.text "age",
          .mapping [(.text "range", .mapping [(.text "from", .int 1)])])])) =
        ⟨[], .ok ⟨[⟨"age", "range"⟩], true⟩⟩ := by
  have hcannot : Kind.range.CannotUse (.mapping [(.text "from", .int 1)]) := by
    rintro entries ⟨⟩
    exact ⟨"to", by decide, id⟩
  obtain ⟨hjudge, -, hreport⟩ := refuses_of_cannotUse hcannot (check?_standard "range")
  refine ⟨hjudge _ _ _ (by simp), ?_⟩
  exact (hreport .silent [] "age" (by simp) (by simp)).2

/-- A number names no field, but the null value passes for what is found under it, and a missing field
is not noted. -/
theorem not_always_refuses :
    Kind.sameAs.CannotUse (.int 5) ∧
      Kind.sameAs.judge .silent .null (.int 5) (.mapping []) ≠ .ok (some false) ∧
      standard.validate .silent (.mapping []) (.raw (.mapping [(.text "a",
          .mapping [(.text "matches", .int 5)])])) = ⟨[], .ok ⟨[], true⟩⟩ :=
  ⟨by simp [Kind.CannotUse], by simp [Kind.judge_sameAs_of_no_text, Value.deepEqual_null_iff], rfl⟩

end Library

end FieldRules
