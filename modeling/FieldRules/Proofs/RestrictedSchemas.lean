import FieldRules.Proofs.Parts

/-!
# Schemas restricted to some fields

A schema may be restricted to some of its fields. What it then finds for them is what it found for
them before: fields are checked one by one, each by its own rules, and neither the rules of another
field nor their findings or calls have a part in it. So to leave fields out of a schema comes to
leaving their findings out of the report. All fields are on hand as before, also those that the
schema does not mention any more.

A restricted schema needs fewer answers than the whole. It may have a report where the whole has
none, since what fails for a field that is left out is not asked.

## Main statements

* `Library.validate_restrict_eq_ok_iff` — what a restricted schema needs, and what it finds
* `Schema.restrict_restrict`, `Schema.restrict_fields` — restricting twice, and to all fields
* `Library.validate_restrict_findings` — the findings of a restricted schema
-/

namespace FieldRules

namespace Trial

/-- Some of the trials make some of the calls, in the same order. -/
theorem sublist_calls {trials trials' : List Trial} (h : trials.Sublist trials') :
    (calls trials).Sublist (calls trials') := by
  induction h with
  | slnil => exact List.Sublist.refl _
  | cons t _ ih => exact ih.trans (List.sublist_append_right _ _)
  | cons_cons t _ ih => exact (List.Sublist.refl _).append ih

end Trial

namespace Schema

variable {s : Surroundings} {lib : Library} {items : Mapping}

/-- The trials of a schema restricted to some names are those of the whole that are about them. -/
theorem trials_restrict_names (schema : Schema) (names : List String) :
    (schema.restrict (names.map .text)).trials s lib items =
      (schema.trials s lib items).filter fun t => t.finding.field ∈ names := by
  rw [trials_restrict]
  refine List.filter_congr fun t _ => ?_
  rw [Bool.eq_iff_iff]
  simp

/-- Restricting twice comes to restricting to the fields that are named both times, in whatever
order and how often they are named. -/
theorem restrict_restrict (schema : Schema) {names others common : List String}
    (hcommon : ∀ x, x ∈ common ↔ x ∈ names ∧ x ∈ others) :
    (schema.restrict (names.map .text)).restrict (others.map .text) =
      schema.restrict (common.map .text) := by
  simp only [restrict, List.filter_filter, mk.injEq]
  refine List.filter_congr fun entry _ => ?_
  rw [Bool.eq_iff_iff]
  simp [hcommon entry.field, and_comm]

/-- To restrict a schema to all its fields is to leave it as it is. -/
theorem restrict_fields (schema : Schema) : schema.restrict (schema.fields.map .text) = schema := by
  obtain ⟨entries⟩ := schema
  simp only [restrict, mk.injEq, List.filter_eq_self]
  intro entry hentry
  simpa [fields] using ⟨entry, hentry, rfl⟩

/-- Names can be looked up, so a schema can be restricted to any of them. -/
theorem restrictTo_names (schema : Schema) (names : List String) :
    schema.restrictTo (.list (names.map .text)) = .ok (schema.restrict (names.map .text)) := by
  simp [restrictTo, Value.elements?, Value.canBeKey]

end Schema

namespace Library

variable {s : Surroundings} {lib : Library} {items : Mapping} {schema : Schema}

/-- A restricted schema has a report exactly if the rules of the fields that stay have answers, and
its findings are theirs. -/
theorem validate_restrict_eq_ok_iff (hcompile : lib.compile (.compiled schema) = .ok schema)
    (names : List String) {report : Report} :
    (lib.validate s (.mapping items)
        (.compiled (schema.restrict (names.map .text)))).result = .ok report ↔
      (∀ t ∈ schema.trials s lib items, t.finding.field ∈ names → t.IsAnswered) ∧
        report = ⟨(Trial.noted (schema.trials s lib items)).filter (·.field ∈ names), true⟩ := by
  rw [validate_result_eq_ok_iff (compile_restrict hcompile _), Schema.trials_restrict_names,
    Trial.noted_filter fun finding => decide (finding.field ∈ names)]
  simp [and_imp]

/-- If a schema has a report, then so has the schema restricted to some names. It is taken over by
the library, makes some of the calls, and finds what the whole finds for these names, in the same
order. Restricting is an operation on sets of names: twice is once by the common names, and all
fields leave the schema as it is. -/
theorem validate_restrict_findings (hcompile : lib.compile (.compiled schema) = .ok schema)
    {report : Report}
    (hreport : (lib.validate s (.mapping items) (.compiled schema)).result = .ok report)
    (names : List String) :
    (∃ part, schema.restrictTo (.list (names.map .text)) = .ok part ∧
      lib.compile (.compiled part) = .ok part ∧
      (lib.validate s (.mapping items) (.compiled part)).result =
        .ok ⟨report.findings.filter (·.field ∈ names), true⟩ ∧
      (lib.validate s (.mapping items) (.compiled part)).calls.Sublist
        (lib.validate s (.mapping items) (.compiled schema)).calls) ∧
    (∀ others common : List String, (∀ x, x ∈ common ↔ x ∈ names ∧ x ∈ others) →
      (schema.restrict (names.map .text)).restrict (others.map .text) =
        schema.restrict (common.map .text)) ∧
    schema.restrict (schema.fields.map .text) = schema := by
  obtain ⟨hanswered, rfl⟩ := (validate_result_eq_ok_iff hcompile).mp hreport
  have hcompile' := compile_restrict hcompile (names.map .text)
  have hanswered' : ∀ t ∈ (schema.restrict (names.map .text)).trials s lib items, t.IsAnswered :=
    fun t ht => hanswered t (schema.trials_restrict_subset _ ht)
  have hcalls : (Trial.calls ((schema.restrict (names.map .text)).trials s lib items)).Sublist
      (Trial.calls (schema.trials s lib items)) := by
    rw [schema.trials_restrict_names]
    exact Trial.sublist_calls List.filter_sublist
  refine ⟨⟨_, schema.restrictTo_names names, hcompile', ?_, ?_⟩,
    fun others common hcommon => schema.restrict_restrict hcommon, schema.restrict_fields⟩
  · exact (validate_restrict_eq_ok_iff hcompile names).mpr ⟨fun t ht _ => hanswered t ht, rfl⟩
  · rw [validate_of_answered hcompile hanswered, validate_of_answered hcompile' hanswered']
    exact hcalls

/-- A schema with rules of every sort. -/
def registration : Schema :=
  ⟨[.custom "terms" 1, .ruleSet "age" [.flag "number" true, .inline "odd" 2],
    .ruleSet "nick" [.flag "required" true, .options "matches" (.text "name")]]⟩

/-- A day on which every function says no. -/
def allRefused : Surroundings where
  answer _ _ := .ok (.bool false)
  today := Surroundings.silent.today
  stack := Surroundings.silent.stack

/-- Restricted to two of its fields, the schema does not ask about the terms. The name is on hand
for the nickname although no rule is about it. -/
theorem validate_registration_restricted :
    ∃ part, registration.restrictTo (.list [.text "nick", .text "age", .text "nick"]) = .ok part ∧
      (standard.validate allRefused (.mapping [(.text "name", .text "Ada")])
        (.compiled part)).result =
        .ok ⟨[⟨"age", "number"⟩, ⟨"age", "odd"⟩, ⟨"nick", "required"⟩, ⟨"nick", "matches"⟩],
          true⟩ := by
  have hreport : (standard.validate allRefused (.mapping [(.text "name", .text "Ada")])
      (.compiled registration)).result = .ok ⟨[⟨"terms", "custom"⟩, ⟨"age", "number"⟩,
        ⟨"age", "odd"⟩, ⟨"nick", "required"⟩, ⟨"nick", "matches"⟩], true⟩ := rfl
  obtain ⟨⟨part, hpart, -, hfound, -⟩, -, -⟩ :=
    validate_restrict_findings rfl hreport ["nick", "age", "nick"]
  exact ⟨part, hpart, hfound⟩

end Library

end FieldRules
