import FieldRules.Evaluation

/-!
# Evaluations as sequences of trials

Rules lie in a schema field by field, and an evaluation walks through both levels. What it does is
simpler: it puts one question after the other, each of them whether a value passes, and notes a
finding for each question that is answered with no. Such a question is a trial here. The trials of a
schema depend neither on the report nor on each other, so every law about evaluations comes down to
one about a list of trials.

If all trials are answered, the report gains the findings of those that failed and nothing else. If
not, the evaluation ends with the first trial that is not answered, and the report has the findings
made up to there. A sealed report gains nothing, so there the evaluation ends with the first trial that
failed as well.

## Main definitions

* `Trial`, `Trial.IsAnswered`, `Trial.isFailed` — a question and what became of it
* `Trial.failureIn?` — what ends an evaluation at a trial
* `Schema.trials` — the trials of a schema
* `Trial.noted`, `Trial.calls` — the findings and the calls of many trials
* `Evaluation.ofTrials` — the evaluation that makes given trials
-/

namespace FieldRules

/-- A day on which every function answers with the null value, and a stack of 900 calls. -/
def Surroundings.silent : Surroundings where
  answer _ _ := .ok .null
  today := ⟨2026, 10, 17, by decide⟩
  stack := .ofCalls 900

/-- Another day of this kind. -/
def Surroundings.silentOn (today : Day) : Surroundings :=
  { Surroundings.silent with today := today }

/-- The question whether a value passes, and the finding if it does not. -/
structure Trial where
  finding : Finding
  passed : Run Bool

namespace Trial

/-- The question has an answer. -/
def IsAnswered (t : Trial) : Prop :=
  ∃ b, t.passed.result = .ok b

/-- Whether the answer is no. -/
def isFailed (t : Trial) : Bool :=
  match t.passed.result with
  | .ok false => true
  | _ => false

/-- What ends an evaluation at a trial, if anything does: the failure of a trial that is not answered, or
the refusal of a finding by a sealed report. -/
def failureIn? (t : Trial) (isSealed : Bool) : Option Failure :=
  match t.passed.result with
  | .ok true => none
  | .ok false => if isSealed then some .sealedAgainstAdding else none
  | .error failure => some failure

theorem failureIn?_false_eq_none_iff {t : Trial} : t.failureIn? false = none ↔ t.IsAnswered := by
  rcases h : t.passed.result with failure | (_ | _) <;> simp [failureIn?, IsAnswered, h]

theorem failureIn?_false_eq_some_iff {t : Trial} {failure : Failure} :
    t.failureIn? false = some failure ↔ t.passed.result = .error failure := by
  rcases h : t.passed.result with failure | (_ | _) <;> simp [failureIn?, h]

theorem failureIn?_true_eq_none_iff {t : Trial} :
    t.failureIn? true = none ↔ t.passed.result = .ok true := by
  rcases h : t.passed.result with failure | (_ | _) <;> simp [failureIn?, h]

/-- The findings of the trials that failed. -/
def noted (trials : List Trial) : List Finding :=
  (trials.filter isFailed).map finding

/-- The calls that trials make. -/
def calls (trials : List Trial) : List Call :=
  trials.flatMap fun t => t.passed.calls

@[simp] theorem noted_nil : noted [] = [] := rfl

theorem noted_cons (t : Trial) (trials : List Trial) :
    noted (t :: trials) = (if t.isFailed then [t.finding] else []) ++ noted trials := by
  cases h : t.isFailed <;> simp [noted, h]

@[simp] theorem noted_append (first second : List Trial) :
    noted (first ++ second) = noted first ++ noted second := by
  simp [noted]

theorem mem_noted_iff {trials : List Trial} {finding : Finding} :
    finding ∈ noted trials ↔ ∃ t ∈ trials, t.isFailed = true ∧ t.finding = finding := by
  simp [noted, and_assoc]

@[simp] theorem calls_nil : calls [] = [] := rfl

@[simp] theorem calls_cons (t : Trial) (trials : List Trial) :
    calls (t :: trials) = t.passed.calls ++ calls trials := rfl

/-- Either no trial ends an evaluation, or there is a first one that does. -/
theorem all_none_or_first_some (trials : List Trial) (isSealed : Bool) :
    (∀ t ∈ trials, t.failureIn? isSealed = none) ∨
      ∃ before t after failure, trials = before ++ t :: after ∧
        (∀ b ∈ before, b.failureIn? isSealed = none) ∧ t.failureIn? isSealed = some failure := by
  cases h : trials.findSome? (failureIn? · isSealed) with
  | none => exact .inl (List.findSome?_eq_none_iff.mp h)
  | some failure =>
      obtain ⟨before, t, after, htrials, ht, hbefore⟩ := List.findSome?_eq_some_iff.mp h
      exact .inr ⟨before, t, after, failure, htrials, hbefore, ht⟩

/-- Trials are all answered, or there is a first one that is not. -/
theorem all_answered_or_first_failure (trials : List Trial) :
    (∀ t ∈ trials, t.IsAnswered) ∨
      ∃ before t after failure, trials = before ++ t :: after ∧
        (∀ b ∈ before, b.IsAnswered) ∧ t.passed.result = .error failure := by
  simpa only [failureIn?_false_eq_none_iff, failureIn?_false_eq_some_iff] using
    all_none_or_first_some trials false

end Trial

/-! ## The evaluation of trials -/

namespace Evaluation

/-- Makes trials one after the other, up to the first that is not answered. -/
def ofTrials : List Trial → Report → Evaluation
  | [], report => .start report
  | t :: rest, report => (ofVerdict report t.finding t.passed).andThen (ofTrials rest)

theorem ofTrials_append (first second : List Trial) (report : Report) :
    ofTrials (first ++ second) report = (ofTrials first report).andThen (ofTrials second) := by
  induction first generalizing report with
  | nil => rfl
  | cons t rest ih =>
      simp only [List.cons_append, ofTrials, andThen_assoc]
      exact congrArg _ (funext ih)

/-- A trial that does not end the evaluation adds its finding if it failed. -/
theorem ofVerdict_of_none {t : Trial} {report : Report}
    (ht : t.failureIn? report.isSealed = none) :
    ofVerdict report t.finding t.passed =
      ⟨{ report with findings := report.findings ++ Trial.noted [t] },
        ⟨t.passed.calls, .ok ()⟩⟩ := by
  obtain ⟨findings, isSealed⟩ := report
  rcases h : t.passed.result with failure | (_ | _) <;> cases isSealed <;>
    simp_all [ofVerdict, Report.record, Trial.failureIn?, Trial.noted, Trial.isFailed]

/-- A trial that ends the evaluation leaves the report as it is. -/
theorem ofVerdict_of_some {t : Trial} {report : Report} {failure : Failure}
    (ht : t.failureIn? report.isSealed = some failure) :
    ofVerdict report t.finding t.passed = ⟨report, ⟨t.passed.calls, .error failure⟩⟩ := by
  obtain ⟨findings, isSealed⟩ := report
  rcases h : t.passed.result with failure | (_ | _) <;> cases isSealed <;>
    simp_all [ofVerdict, Report.record, Trial.failureIn?]

/-- Trials none of which ends the evaluation add the findings of those that failed, in order. -/
theorem ofTrials_of_none {trials : List Trial} (report : Report)
    (h : ∀ t ∈ trials, t.failureIn? report.isSealed = none) :
    ofTrials trials report =
      ⟨{ report with findings := report.findings ++ Trial.noted trials },
        ⟨Trial.calls trials, .ok ()⟩⟩ := by
  induction trials generalizing report with
  | nil => simp [ofTrials, start]
  | cons t rest ih =>
      obtain ⟨ht, hrest⟩ := List.forall_mem_cons.mp h
      have hnext := ih ⟨report.findings ++ Trial.noted [t], report.isSealed⟩ hrest
      rw [ofTrials, ofVerdict_of_none ht]
      simp only [andThen, hnext, List.append_assoc, ← Trial.noted_append, List.singleton_append,
        Trial.calls_cons]

/-- The first trial that ends the evaluation is the last one that is made. -/
theorem ofTrials_of_some {before after : List Trial} {t : Trial} {failure : Failure}
    (report : Report) (hbefore : ∀ b ∈ before, b.failureIn? report.isSealed = none)
    (ht : t.failureIn? report.isSealed = some failure) :
    ofTrials (before ++ t :: after) report =
      ⟨{ report with findings := report.findings ++ Trial.noted before },
        ⟨Trial.calls before ++ t.passed.calls, .error failure⟩⟩ := by
  have hlast : ofVerdict { report with findings := report.findings ++ Trial.noted before } t.finding
      t.passed = ⟨_, ⟨t.passed.calls, .error failure⟩⟩ := ofVerdict_of_some ht
  rw [ofTrials_append, ofTrials_of_none report hbefore]
  simp [andThen, ofTrials, hlast]

/-- Trials that are all answered add the findings of those that failed to an open report. -/
theorem ofTrials_of_answered {trials : List Trial} (h : ∀ t ∈ trials, t.IsAnswered)
    (report : Report) (hopen : report.isSealed = false) :
    ofTrials trials report =
      ⟨{ report with findings := report.findings ++ Trial.noted trials },
        ⟨Trial.calls trials, .ok ()⟩⟩ := by
  refine ofTrials_of_none report fun t ht => ?_
  rw [hopen, Trial.failureIn?_false_eq_none_iff]
  exact h t ht

/-- In an open report, the first trial that is not answered ends the evaluation with its failure. -/
theorem ofTrials_of_failure {before after : List Trial} {t : Trial} {failure : Failure}
    (hbefore : ∀ b ∈ before, b.IsAnswered) (ht : t.passed.result = .error failure)
    (report : Report) (hopen : report.isSealed = false) :
    ofTrials (before ++ t :: after) report =
      ⟨{ report with findings := report.findings ++ Trial.noted before },
        ⟨Trial.calls before ++ t.passed.calls, .error failure⟩⟩ := by
  refine ofTrials_of_some report (fun b hb => ?_) ?_
  · rw [hopen, Trial.failureIn?_false_eq_none_iff]
    exact hbefore b hb
  · rw [hopen, Trial.failureIn?_false_eq_some_iff]
    exact ht

end Evaluation

/-! ## The answers to rules -/

/-- An answer that is looked at afterwards takes the same calls. -/
theorem Run.bind_return {α β : Type} (r : Run α) (f : α → β) :
    (do let a ← r; return f a) = (⟨r.calls, r.result.map f⟩ : Run β) := by
  obtain ⟨calls, result⟩ := r
  cases result <;> simp [Except.map]

/-- A computation after another one has the result of both. -/
theorem Run.result_bind {α β : Type} (r : Run α) (next : α → Run β) :
    (r >>= next).result = r.result.bind fun a => (next a).result := by
  obtain ⟨calls, result⟩ := r
  cases result <;> rfl

namespace Rule

/-- The options that a check is given. -/
def given : Rule → Value
  | .flag _ expected => .bool expected
  | .options _ value => value
  | .inline _ _ => .null

/-- Whether the answer to a rule lets a value pass. -/
def accepts : Rule → Value → Bool
  | .flag _ expected, answer => answer.isBool expected
  | _, answer => !answer.isBool false

/-- The rule is checked by a function of its own. -/
def IsInline (rule : Rule) : Prop :=
  ∃ kind f, rule = .inline kind f

end Rule

namespace Library

variable {s : Surroundings} {lib : Library} {fields value : Value}

/-- A rule without a function of its own passes on what the check of its kind answers. -/
theorem passes_of_check? {rule : Rule} (hrule : ¬ rule.IsInline) {check : Check}
    (hcheck : lib.check? (.text rule.kind) = some check) :
    lib.passes s fields value rule =
      ⟨(check.run s value rule.given fields).calls,
        (check.run s value rule.given fields).result.map rule.accepts⟩ := by
  cases rule with
  | inline kind f => exact absurd ⟨kind, f, rfl⟩ hrule
  | flag kind expected =>
      replace hcheck : lib.check? (.text kind) = some check := hcheck
      simp only [passes, useChecked, hcheck]
      exact Run.bind_return ..
  | options kind options =>
      replace hcheck : lib.check? (.text kind) = some check := hcheck
      simp only [passes, useChecked, hcheck]
      exact Run.bind_return ..

/-- A function answers to the value and all fields. -/
theorem passes_inline (lib : Library) (kind : String) (f : FunctionId) :
    lib.passes s fields value (.inline kind f) =
      ⟨[⟨f, [value, fields]⟩], (s.answer f [value, fields]).map fun answer => !answer.isBool false⟩ :=
  Run.bind_return ..

theorem passesCustom_eq (f : FunctionId) :
    passesCustom s fields value f =
      ⟨[⟨f, [value, fields]⟩], (s.answer f [value, fields]).map fun answer => !answer.isBool false⟩ :=
  Run.bind_return ..

end Library

/-! ## The trials of a schema -/

/-- The trials of one entry, for given fields. -/
def Entry.trials (s : Surroundings) (lib : Library) (items : Mapping) (entry : Entry) :
    List Trial :=
  let value := Mapping.getOrNull items (.text entry.field)
  match entry with
  | .custom field f =>
    [⟨⟨field, Library.customKind⟩, Library.passesCustom s (.mapping items) value f⟩]
  | .ruleSet field rules =>
    rules.map fun rule => ⟨⟨field, rule.kind⟩, lib.passes s (.mapping items) value rule⟩

/-- The trials of all entries of a schema, in order. -/
def Schema.trials (s : Surroundings) (lib : Library) (items : Mapping) (schema : Schema) :
    List Trial :=
  schema.entries.flatMap (Entry.trials s lib items)

variable {s : Surroundings} {lib : Library} {items : Mapping}

theorem Schema.trials_cons (entry : Entry) (rest : List Entry) :
    Schema.trials s lib items ⟨entry :: rest⟩ =
      entry.trials s lib items ++ Schema.trials s lib items ⟨rest⟩ := rfl

theorem Entry.field_finding_of_mem_trials {entry : Entry} {t : Trial}
    (h : t ∈ entry.trials s lib items) : t.finding.field = entry.field := by
  cases entry with
  | custom field f => simp_all [Entry.trials, Entry.field]
  | ruleSet field rules =>
      simp only [Entry.trials, List.mem_map] at h
      obtain ⟨rule, -, rfl⟩ := h
      rfl

namespace Library

theorem evaluateRules_eq_ofTrials (fields value : Value) (field : String) (rules : List Rule)
    (report : Report) :
    lib.evaluateRules s fields value field rules report =
      .ofTrials (rules.map fun rule => ⟨⟨field, rule.kind⟩, lib.passes s fields value rule⟩)
        report := by
  induction rules generalizing report with
  | nil => rfl
  | cons rule rest ih =>
      simp only [evaluateRules, List.map_cons, Evaluation.ofTrials]
      exact congrArg _ (funext ih)

theorem evaluate_eq_ofTrials (entry : Entry) (report : Report) :
    lib.evaluate s (.mapping items) entry report = .ofTrials (entry.trials s lib items) report := by
  cases entry with
  | custom field f => simp [evaluate, Entry.trials, Evaluation.ofTrials]
  | ruleSet field rules => exact evaluateRules_eq_ofTrials ..

/-- Checking a mapping of fields makes the trials of the entries one after the other. -/
theorem evaluateAll_eq_ofTrials (entries : List Entry) (report : Report) :
    lib.evaluateAll s (.mapping items) entries report =
      .ofTrials (Schema.trials s lib items ⟨entries⟩) report := by
  induction entries generalizing report with
  | nil => rfl
  | cons entry rest ih =>
      rw [evaluateAll, evaluate_eq_ofTrials, Schema.trials_cons, Evaluation.ofTrials_append]
      exact congrArg _ (funext ih)

/-- Fields that are no mapping are refused by the first entry, before anything is asked. -/
theorem evaluateAll_of_no_mapping {fields : Value} (h : ∀ items, fields ≠ .mapping items)
    (entries : List Entry) (report : Report) :
    lib.evaluateAll s fields entries report =
      if entries = [] then .start report else ⟨report, .fail .noSuchOperation⟩ := by
  cases entries with
  | nil => rfl
  | cons entry rest =>
      have hentry : lib.evaluate s fields entry report = ⟨report, .fail .noSuchOperation⟩ := by
        cases fields <;> first | rfl | exact absurd rfl (h _)
      simp [evaluateAll, hentry, Evaluation.andThen, Run.fail]

/-! ## The reports of schemas -/

variable {source : SchemaSource} {schema : Schema}

theorem validate_of_compile_error {failure : Failure} (h : lib.compile source = .error failure)
    (fields : Value) : lib.validate s fields source = .fail failure := by
  simp [validate, h]

/-- Whatever has a report has a compiled schema. -/
theorem exists_compile_of_validate_eq_ok {fields : Value} {report : Report}
    (h : (lib.validate s fields source).result = .ok report) :
    ∃ schema, lib.compile source = .ok schema := by
  cases hcompile : lib.compile source with
  | ok schema => exact ⟨schema, rfl⟩
  | error failure =>
      rw [validate_of_compile_error hcompile] at h
      cases h

/-- If all trials of a schema are answered, the report is sealed and has the findings of those that
failed. -/
theorem validate_of_answered (hcompile : lib.compile source = .ok schema)
    (h : ∀ t ∈ schema.trials s lib items, t.IsAnswered) :
    lib.validate s (.mapping items) source =
      ⟨Trial.calls (schema.trials s lib items),
        .ok ⟨Trial.noted (schema.trials s lib items), true⟩⟩ := by
  simp only [validate, hcompile, evaluateAll_eq_ofTrials]
  rw [Evaluation.ofTrials_of_answered h .empty rfl]
  simp [Run.andThen, Report.empty, Report.sealUp]

/-- If a trial of a schema is not answered, its failure is that of the whole. -/
theorem validate_of_failure (hcompile : lib.compile source = .ok schema)
    {before after : List Trial} {t : Trial} {failure : Failure}
    (htrials : schema.trials s lib items = before ++ t :: after)
    (hbefore : ∀ b ∈ before, b.IsAnswered) (ht : t.passed.result = .error failure) :
    lib.validate s (.mapping items) source =
      ⟨Trial.calls before ++ t.passed.calls, .error failure⟩ := by
  simp only [validate, hcompile, evaluateAll_eq_ofTrials]
  rw [show Schema.trials s lib items ⟨schema.entries⟩ = before ++ t :: after from htrials,
    Evaluation.ofTrials_of_failure hbefore ht .empty rfl]
  simp [Run.andThen]

/-- There is a report exactly if all trials are answered, and it is the one of these trials. -/
theorem validate_result_eq_ok_iff (hcompile : lib.compile source = .ok schema) {report : Report} :
    (lib.validate s (.mapping items) source).result = .ok report ↔
      (∀ t ∈ schema.trials s lib items, t.IsAnswered) ∧
        report = ⟨Trial.noted (schema.trials s lib items), true⟩ := by
  rcases Trial.all_answered_or_first_failure (schema.trials s lib items) with
    h | ⟨before, t, after, failure, htrials, hbefore, ht⟩
  · simp only [validate_of_answered hcompile h, Except.ok.injEq]
    exact ⟨fun hr => ⟨h, hr.symm⟩, fun hr => hr.2.symm⟩
  · have hnot : ¬ t.IsAnswered := by simp [Trial.IsAnswered, ht]
    simp only [validate_of_failure hcompile htrials hbefore ht, reduceCtorEq, false_iff, not_and]
    intro h
    exact absurd (h t (by simp [htrials])) hnot

/-- A failure of a validation that got past the schema is the failure of one of its trials, whose
calls were made. -/
theorem exists_trial_of_validate_error (hcompile : lib.compile source = .ok schema)
    {failure : Failure}
    (h : (lib.validate s (.mapping items) source).result = .error failure) :
    ∃ t ∈ schema.trials s lib items, t.passed.result = .error failure ∧
      t.passed.calls ⊆ (lib.validate s (.mapping items) source).calls := by
  rcases Trial.all_answered_or_first_failure (schema.trials s lib items) with
    hall | ⟨before, t, after, failure', htrials, hbefore, ht⟩
  · simp [validate_of_answered hcompile hall] at h
  · have hv := validate_of_failure hcompile htrials hbefore ht
    obtain rfl : failure' = failure := by simpa [hv] using h
    exact ⟨t, by simp [htrials], ht, by simp [hv]⟩

end Library

end FieldRules
