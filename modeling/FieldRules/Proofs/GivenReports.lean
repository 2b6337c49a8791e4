import FieldRules.Proofs.Trials

/-!
# Evaluations into a given report

An evaluation need not start with an empty report: it adds to the report that it is given, which may hold
findings already, and may be sealed. What it does to the report is the same in each case. The findings that
are there stay where they are, and those that are made come after them, up to the end or to the first trial
that ends the evaluation. An open report is left with these findings if the evaluation fails.

In a sealed report there is no such thing as a finding that was made before the failure, since the first
finding is the failure. So an evaluation into it comes to its end only if every value passes.

Since nothing but the report goes from one entry to the next, entries can be evaluated in parts.

## Main definitions

* `Evaluation.Makes` — what an evaluation that makes given trials does to the report it is given

## Main statements

* `Evaluation.makes_ofTrials` — trials are made in this way
* `Library.evaluateAll_into_report` — evaluations of entries, whole and in parts
-/

namespace FieldRules

namespace Evaluation

variable {trials : List Trial} {report : Report}

/-- What an evaluation that makes given trials does to the report it is given. -/
structure Makes (trials : List Trial) (report : Report) (e : Evaluation) : Prop where
  /-- The findings that are there stay the first ones, and the seal stays as it is. -/
  appends : ∃ added, e.report = { report with findings := report.findings ++ added }
  unchanged_of_isSealed : report.isSealed = true → e.report = report
  returns_iff_of_open : report.isSealed = false →
    (e.run.result = .ok () ↔ ∀ t ∈ trials, t.IsAnswered)
  returns_iff_of_isSealed : report.isSealed = true →
    (e.run.result = .ok () ↔ ∀ t ∈ trials, t.passed.result = .ok true)
  of_returns : e.run.result = .ok () →
    e.report.findings = report.findings ++ Trial.noted trials ∧ e.run.calls = Trial.calls trials
  /-- The trials are made up to the first that ends the evaluation, and none after it. -/
  of_failure : ∀ before t after failure, trials = before ++ t :: after →
    (∀ b ∈ before, b.failureIn? report.isSealed = none) →
    t.failureIn? report.isSealed = some failure →
      e = ⟨{ report with findings := report.findings ++ Trial.noted before },
        ⟨Trial.calls before ++ t.passed.calls, .error failure⟩⟩

/-- The report gains the findings of trials that do not end the evaluation. -/
theorem exists_report_ofTrials (trials : List Trial) (report : Report) :
    ∃ made, (∀ t ∈ made, t.failureIn? report.isSealed = none) ∧
      (ofTrials trials report).report =
        { report with findings := report.findings ++ Trial.noted made } := by
  rcases Trial.all_none_or_first_some trials report.isSealed with
    hnone | ⟨before, t, after, failure, rfl, hbefore, ht⟩
  · exact ⟨trials, hnone, by rw [ofTrials_of_none report hnone]⟩
  · exact ⟨before, hbefore, by rw [ofTrials_of_some report hbefore ht]⟩

theorem returns_ofTrials_iff : (ofTrials trials report).run.result = .ok () ↔
    ∀ t ∈ trials, t.failureIn? report.isSealed = none := by
  rcases Trial.all_none_or_first_some trials report.isSealed with
    hnone | ⟨before, t, after, failure, rfl, hbefore, ht⟩
  · simpa only [ofTrials_of_none report hnone, true_iff] using hnone
  · rw [ofTrials_of_some report hbefore ht]
    refine iff_of_false (by simp) fun hnone => ?_
    have hgoesOn : t.failureIn? report.isSealed = none := hnone t (by simp)
    simp [hgoesOn] at ht

/-- Trials that do not end an evaluation into a sealed report make no finding. -/
theorem noted_eq_nil_of_none (h : ∀ t ∈ trials, t.failureIn? true = none) :
    Trial.noted trials = [] := by
  have hpassed : ∀ t ∈ trials, ¬ t.isFailed = true := by
    intro t ht
    simp [Trial.isFailed, Trial.failureIn?_true_eq_none_iff.mp (h t ht)]
  rw [Trial.noted, List.filter_eq_nil_iff.mpr hpassed, List.map_nil]

/-- Trials that are made one after the other do this to the report. -/
theorem makes_ofTrials (trials : List Trial) (report : Report) :
    Makes trials report (ofTrials trials report) where
  appends := by
    obtain ⟨made, -, hreport⟩ := exists_report_ofTrials trials report
    exact ⟨Trial.noted made, hreport⟩
  unchanged_of_isSealed hsealed := by
    obtain ⟨made, hmade, hreport⟩ := exists_report_ofTrials trials report
    rw [hsealed] at hmade
    rw [hreport, noted_eq_nil_of_none hmade, List.append_nil]
  returns_iff_of_open hopen := by
    rw [returns_ofTrials_iff, hopen]
    exact forall₂_congr fun t _ => Trial.failureIn?_false_eq_none_iff
  returns_iff_of_isSealed hsealed := by
    rw [returns_ofTrials_iff, hsealed]
    exact forall₂_congr fun t _ => Trial.failureIn?_true_eq_none_iff
  of_returns h := by
    rw [ofTrials_of_none report (returns_ofTrials_iff.mp h)]
    exact ⟨rfl, rfl⟩
  of_failure := by
    rintro before t after failure rfl hbefore ht
    exact ofTrials_of_some report hbefore ht

end Evaluation

namespace Library

/-- Entries in two parts are evaluated part by part, the second into the report that the first leaves, and
only if the first comes to its end. Whatever the fields are, a report keeps the findings that it has, and a
sealed one does not change. Fields that are a mapping are checked by the trials of the entries one after
the other. If they are none, the first entry fails before its first trial, and the report is as it was. -/
theorem evaluateAll_into_report (s : Surroundings) (lib : Library) (fields : Value) (report : Report) :
    (∀ first second, lib.evaluateAll s fields (first ++ second) report =
      (lib.evaluateAll s fields first report).andThen (lib.evaluateAll s fields second)) ∧
    (∀ entries items, fields = .mapping items →
      Evaluation.Makes (Schema.trials s lib items ⟨entries⟩) report
        (lib.evaluateAll s fields entries report)) ∧
    (∀ entries, (∀ items, fields ≠ .mapping items) →
      lib.evaluateAll s fields entries report =
        if entries = [] then .start report else ⟨report, .fail .noSuchOperation⟩) := by
  refine ⟨fun first second => evaluateAll_append s lib fields first second report, ?_,
    fun entries hfields => evaluateAll_of_no_mapping hfields entries report⟩
  rintro entries items rfl
  rw [evaluateAll_eq_ofTrials]
  exact Evaluation.makes_ofTrials _ report

/-- Three rules of a field that is missing, the second of a kind that is unknown. An open report gains the
finding of the first before the second fails; a sealed one refuses that finding. -/
theorem evaluateAll_into_report_unknown :
    let entries := [Entry.ruleSet "age" [.flag "required" true, .flag "odd" true, .flag "number" true]]
    standard.evaluateAll .silent (.mapping []) entries ⟨[⟨"name", "hex"⟩], false⟩ =
      ⟨⟨[⟨"name", "hex"⟩, ⟨"age", "required"⟩], false⟩,
        ⟨[], .error (.schema (.missingCheck (.text "odd")))⟩⟩ ∧
    standard.evaluateAll .silent (.mapping []) entries ⟨[⟨"name", "hex"⟩], true⟩ =
      ⟨⟨[⟨"name", "hex"⟩], true⟩, ⟨[], .error .sealedAgainstAdding⟩⟩ := by
  intro entries
  have htrials : Schema.trials .silent standard [] ⟨entries⟩ =
      [⟨⟨"age", "required"⟩, ⟨[], .ok false⟩⟩,
        ⟨⟨"age", "odd"⟩, ⟨[], .error (.schema (.missingCheck (.text "odd")))⟩⟩,
        ⟨⟨"age", "number"⟩, ⟨[], .ok false⟩⟩] := rfl
  constructor
  · obtain ⟨-, hmakes, -⟩ :=
      evaluateAll_into_report .silent standard (.mapping []) ⟨[⟨"name", "hex"⟩], false⟩
    exact (hmakes entries [] rfl).of_failure [_] _ [_] _ htrials
      (List.forall_mem_singleton.mpr rfl) rfl
  · obtain ⟨-, hmakes, -⟩ :=
      evaluateAll_into_report .silent standard (.mapping []) ⟨[⟨"name", "hex"⟩], true⟩
    exact (hmakes entries [] rfl).of_failure [] _ [_, _] _ htrials
      (List.forall_mem_nil _) rfl

end Library

end FieldRules
