import FieldRules.Compilation
import FieldRules.Report

/-!
# Evaluating compiled schemas

Each rule of each field is checked, whatever the others found. A rule passes unless its check
answers with the truth value false, and no other answer fails it; a flag is stricter and passes only
if the answer is the very truth value of the flag. A rule that does not pass is noted in a report.

A failure ends the evaluation and leaves the report with the findings made before it. Adding to a
sealed report is such a failure.

## Main definitions

* `Evaluation` — a report, the calls made, and whether the evaluation came to its end
* `Library.passes` — whether a rule passes
* `Library.evaluate`, `Library.evaluateAll` — the evaluation of one entry and of many
* `Library.validate` — the sealed report on some fields
-/

namespace FieldRules

/-- How far an evaluation came: the report, and the calls with the failure that ended it, if one
did. -/
structure Evaluation where
  report : Report
  run : Run Unit

namespace Evaluation

/-- An evaluation of nothing. -/
def start (report : Report) : Evaluation :=
  ⟨report, pure ()⟩

/-- The second evaluation after the first, if the first came to its end. -/
def andThen (first : Evaluation) (next : Report → Evaluation) : Evaluation :=
  match first.run.result with
  | .ok () =>
    let second := next first.report
    ⟨second.report, ⟨first.run.calls ++ second.run.calls, second.run.result⟩⟩
  | .error _ => first

@[simp] theorem start_andThen (report : Report) (next : Report → Evaluation) :
    (start report).andThen next = next report := rfl

@[simp] theorem andThen_start (first : Evaluation) : first.andThen start = first := by
  obtain ⟨report, calls, result⟩ := first
  cases result <;> simp [andThen, start]

theorem andThen_assoc (first : Evaluation) (second third : Report → Evaluation) :
    (first.andThen second).andThen third = first.andThen fun r => (second r).andThen third := by
  obtain ⟨report, calls, result⟩ := first
  cases result with
  | error failure => rfl
  | ok _ =>
    simp only [andThen]
    cases h : (second report).run.result <;> simp [h]

/-- Notes a finding in a report, unless a check passed or failed to answer. -/
def ofVerdict (report : Report) (finding : Finding) (passed : Run Bool) : Evaluation :=
  match passed.result with
  | .ok true => ⟨report, ⟨passed.calls, .ok ()⟩⟩
  | .ok false =>
    match report.record finding with
    | .ok report' => ⟨report', ⟨passed.calls, .ok ()⟩⟩
    | .error failure => ⟨report, ⟨passed.calls, .error failure⟩⟩
  | .error failure => ⟨report, ⟨passed.calls, .error failure⟩⟩

end Evaluation

namespace Library

/-- The kind noted where one function checks a whole field. -/
def customKind : String := "custom"

/-- Uses the check of a compiled rule. -/
def useChecked (s : Surroundings) (lib : Library) (kind : String) (value options fields : Value) :
    Run Value :=
  match lib.check? (.text kind) with
  | some check => check.run s value options fields
  | none => .fail (.schema (.missingCheck (.text kind)))

/-- Whether a value passes a rule. -/
def passes (s : Surroundings) (lib : Library) (fields value : Value) : Rule → Run Bool
  | .inline _ f => do
    let answer ← Run.call s f [value, fields]
    return !answer.isBool false
  | .flag kind expected => do
    let answer ← lib.useChecked s kind value (.bool expected) fields
    return answer.isBool expected
  | .options kind options => do
    let answer ← lib.useChecked s kind value options fields
    return !answer.isBool false

/-- Whether a value passes the function that checks the whole field. -/
def passesCustom (s : Surroundings) (fields value : Value) (function : FunctionId) : Run Bool := do
  let answer ← Run.call s function [value, fields]
  return !answer.isBool false

/-- Checks a value by the rules of its field. -/
def evaluateRules (s : Surroundings) (lib : Library) (fields value : Value) (field : String) :
    List Rule → Report → Evaluation
  | [], report => .start report
  | rule :: rest, report =>
    (Evaluation.ofVerdict report ⟨field, rule.kind⟩ (lib.passes s fields value rule)).andThen
      (evaluateRules s lib fields value field rest)

/-- Checks one field. A missing field has the null value; the fields have to be a mapping. -/
def evaluate (s : Surroundings) (lib : Library) (fields : Value) (entry : Entry) (report : Report) :
    Evaluation :=
  match fields with
  | .mapping items =>
    let value := Mapping.getOrNull items (.text entry.field)
    match entry with
    | .custom field f => .ofVerdict report ⟨field, customKind⟩ (passesCustom s fields value f)
    | .ruleSet field rules => lib.evaluateRules s fields value field rules report
  | _ => ⟨report, .fail .noSuchOperation⟩

/-- Checks the fields of all entries, in order. -/
def evaluateAll (s : Surroundings) (lib : Library) (fields : Value) :
    List Entry → Report → Evaluation
  | [], report => .start report
  | entry :: rest, report =>
    (lib.evaluate s fields entry report).andThen (evaluateAll s lib fields rest)

/-- Entries in two parts are checked as if they were checked part by part. -/
theorem evaluateAll_append (s : Surroundings) (lib : Library) (fields : Value)
    (first second : List Entry) (report : Report) :
    lib.evaluateAll s fields (first ++ second) report =
      (lib.evaluateAll s fields first report).andThen (lib.evaluateAll s fields second) := by
  induction first generalizing report with
  | nil => rfl
  | cons entry rest ih =>
    simp only [List.cons_append, evaluateAll, Evaluation.andThen_assoc]
    exact congrArg _ (funext ih)

/-- The sealed report on some fields. The schema is compiled before anything is checked. -/
def validate (s : Surroundings) (lib : Library) (fields : Value) (source : SchemaSource) :
    Run Report :=
  match lib.compile source with
  | .error failure => .fail failure
  | .ok schema =>
    let evaluation := lib.evaluateAll s fields schema.entries .empty
    evaluation.run.andThen fun _ => pure evaluation.report.sealUp

end Library

end FieldRules
