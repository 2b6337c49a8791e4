import FieldRules.Proofs.Flags
import FieldRules.Proofs.ReadBack

/-!
# What becomes of one rule

A rule is checked for its own field and is noted under its own name, whatever other rules stand around
it. Where no field and no kind is given twice, a report therefore tells of each rule whether the value of
the field passed it: its finding is there exactly if the value did not. And a schema that has this rule
alone has a report as soon as the rule has an answer.

## Main definitions

* `Library.Decides` — what reports tell of a rule

## Main statements

* `Library.mem_findings_iff` — the finding of a rule
* `Library.decides_of_judge`, `Library.decides_flag_of_judge` — rules of a built-in kind, by what the check
  says
-/

namespace FieldRules

theorem Rule.written_fst (rule : Rule) : rule.written.1 = .text rule.kind := by
  cases rule <;> rfl

theorem Trial.isFailed_iff {t : Trial} : t.isFailed = true ↔ t.passed.result = .ok false := by
  rcases h : t.passed.result with failure | (_ | _) <;> simp [isFailed, h]

namespace Library

variable {lib : Library} {s : Surroundings} {items raw rules : Mapping} {field name : String}
  {given : Value} {rule : Rule}

/-- A raw rule is compiled to one rule at most. -/
theorem CompilesRule.unique {raw : Value × Value} {rule rule' : Rule} (h : CompilesRule lib raw rule)
    (h' : CompilesRule lib raw rule') : rule = rule' := by
  have hcompile := (compileRule_eq_ok_iff .null raw.1 raw.2 rule).mpr h
  have hcompile' := (compileRule_eq_ok_iff .null raw.1 raw.2 rule').mpr h'
  exact Except.ok.inj (hcompile.symm.trans hcompile')

/-- A rule is tried for the value of its field. -/
theorem trial_mem_of_compile {schema : Schema}
    (hcompile : lib.compile (.raw (.mapping raw)) = .ok schema)
    (hfield : (.text field, .mapping rules) ∈ raw) (hrule : (.text name, given) ∈ rules)
    (hcompiles : CompilesRule lib (.text name, given) rule) :
    ⟨⟨field, name⟩, lib.passes s (.mapping items) (Mapping.getOrNull items (.text field)) rule⟩ ∈
      schema.trials s lib items := by
  obtain ⟨entry, hentry, hcompiled⟩ :=
    exists_mem_right_of_forall₂ ((compile_raw_eq_ok_iff raw schema).mp hcompile) hfield
  cases hcompiled with
  | ruleSet htext heach =>
      obtain rfl := Except.ok.inj htext
      obtain ⟨rule', hmem, hcompiles'⟩ := exists_mem_right_of_forall₂ heach hrule
      obtain rfl := hcompiles.unique hcompiles'
      refine List.mem_flatMap.mpr ⟨_, hentry, List.mem_map.mpr ⟨_, hmem, ?_⟩⟩
      rw [hcompiles.kind_eq]
      rfl

/-- Where no field and no kind is given twice, no other trial has the finding of a rule. -/
theorem trial_unique_of_compile (htext : RawSchema.HasTextNames (.mapping raw))
    (hfields : (Mapping.keys raw).Nodup) (hkinds : (Mapping.keys rules).Nodup) {schema : Schema}
    (hcompile : lib.compile (.raw (.mapping raw)) = .ok schema)
    (hfield : (.text field, .mapping rules) ∈ raw) (hrule : (.text name, given) ∈ rules)
    (hcompiles : CompilesRule lib (.text name, given) rule) {t : Trial}
    (ht : t ∈ schema.trials s lib items) (hfinding : t.finding = ⟨field, name⟩) :
    t.passed = lib.passes s (.mapping items) (Mapping.getOrNull items (.text field)) rule := by
  obtain ⟨entry, hentry, hmem⟩ := List.mem_flatMap.mp ht
  have hwritten : entry.written = (.text field, .mapping rules) := by
    refine List.inj_on_of_nodup_map hfields ?_ hfield ?_
    · rw [map_written_eq htext hcompile]
      exact List.mem_map_of_mem hentry
    · rw [entry.written_fst, ← Entry.field_finding_of_mem_trials hmem, hfinding]
  have hcompiled := compilesEntry_written htext hcompile entry hentry
  cases entry with
  | custom field' f => cases hwritten
  | ruleSet field' rules' =>
      obtain ⟨hfield', hrules⟩ := Prod.mk.inj hwritten
      obtain rfl := Value.text.inj hfield'
      obtain rfl := Value.mapping.inj hrules
      obtain ⟨rule', hrule', rfl⟩ := List.mem_map.mp hmem
      have hcompiles' := hcompiled.compilesRule_written rule' hrule'
      have hsame : rule'.written = (.text name, given) := by
        refine List.inj_on_of_nodup_map hkinds (List.mem_map_of_mem hrule') hrule ?_
        rw [rule'.written_fst]
        exact congrArg (fun finding => Value.text finding.kind) hfinding
      rw [hsame] at hcompiles'
      rw [hcompiles.unique hcompiles']
      rfl

/-- Where no field and no kind is given twice, a report has the finding of a rule exactly if the value of
its field does not pass it. -/
theorem mem_findings_iff (htext : RawSchema.HasTextNames (.mapping raw))
    (hfields : (Mapping.keys raw).Nodup) (hkinds : (Mapping.keys rules).Nodup)
    (hfield : (.text field, .mapping rules) ∈ raw) (hrule : (.text name, given) ∈ rules)
    (hcompiles : CompilesRule lib (.text name, given) rule) {report : Report}
    (hreport : (lib.validate s (.mapping items) (.raw (.mapping raw))).result = .ok report) :
    ⟨field, name⟩ ∈ report.findings ↔
      (lib.passes s (.mapping items) (Mapping.getOrNull items (.text field)) rule).result =
        .ok false := by
  obtain ⟨schema, hcompile⟩ := exists_compile_of_validate_eq_ok hreport
  obtain ⟨-, rfl⟩ := (validate_result_eq_ok_iff hcompile).mp hreport
  simp only [Trial.mem_noted_iff, Trial.isFailed_iff]
  constructor
  · rintro ⟨t, ht, hfailed, hfinding⟩
    rwa [trial_unique_of_compile htext hfields hkinds hcompile hfield hrule hcompiles ht hfinding]
      at hfailed
  · intro hfailed
    exact ⟨_, trial_mem_of_compile hcompile hfield hrule hcompiles, hfailed, rfl⟩

/-- Of a rule that a value passes, or does not pass, reports tell just that: the one on a schema of this
rule alone, which there is, and every one on a schema that has the rule and gives no field and no kind
twice. -/
structure Decides (lib : Library) (s : Surroundings) (items : Mapping) (field name : String)
    (given : Value) (passed : Bool) : Prop where
  alone : lib.validate s (.mapping items)
      (.raw (.mapping [(.text field, .mapping [(.text name, given)])])) =
    ⟨[], .ok ⟨if passed then [] else [⟨field, name⟩], true⟩⟩
  among : ∀ raw rules report, RawSchema.HasTextNames (.mapping raw) → (Mapping.keys raw).Nodup →
    (Mapping.keys rules).Nodup → (.text field, .mapping rules) ∈ raw → (.text name, given) ∈ rules →
    (lib.validate s (.mapping items) (.raw (.mapping raw))).result = .ok report →
      (⟨field, name⟩ ∈ report.findings ↔ passed = false)

theorem decides_of_passes {passed : Bool} (hcompiles : CompilesRule lib (.text name, given) rule)
    (hpasses : lib.passes s (.mapping items) (Mapping.getOrNull items (.text field)) rule =
      ⟨[], .ok passed⟩) : lib.Decides s items field name given passed where
  alone := validate_oneRule hcompiles hpasses
  among raw rules report htext hfields hkinds hfield hrule hreport := by
    rw [mem_findings_iff htext hfields hkinds hfield hrule hcompiles hreport, hpasses, Except.ok.injEq]

variable {kind : Kind} {verdict : Verdict}

/-- Options are passed unless the check says no. -/
theorem decides_of_judge (hcheck : lib.check? (.text kind.name) = some (.builtin kind))
    (hflag : ∀ b, given ≠ .bool b)
    (hjudge : kind.judge s (Mapping.getOrNull items (.text field)) given (.mapping items) =
      .ok verdict) : lib.Decides s items field kind.name given (verdict ≠ some false) := by
  refine decides_of_passes (.options (contains_of_check?_eq_some hcheck) rfl hflag) ?_
  rw [passes_of_builtin (by rintro ⟨_, _, ⟨⟩⟩) hcheck, Rule.given, hjudge]
  rcases verdict with _ | (_ | _) <;> rfl

/-- A flag is passed if the check says just that. -/
theorem decides_flag_of_judge (hcheck : lib.check? (.text kind.name) = some (.builtin kind)) {b : Bool}
    (hjudge : kind.judge s (Mapping.getOrNull items (.text field)) (.bool b) (.mapping items) =
      .ok verdict) : lib.Decides s items field kind.name (.bool b) (verdict = some b) := by
  refine decides_of_passes (.flag (contains_of_check?_eq_some hcheck) rfl) ?_
  rw [passes_flag hcheck, hjudge]
  rfl

end Library

end FieldRules
