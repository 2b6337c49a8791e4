import FieldRules.Report

/-!
# Operations on reports

What can be done to a report, as data. An operation takes a report to a report and answers, or fails
and leaves the report as it is.

## Main definitions

* `Report.Operation`, `Report.Answer` — the operations and their answers
* `Report.perform` — one operation
* `Report.performAll` — a sequence of operations, where a failure does not end the sequence
-/

namespace FieldRules.Report

/-- An operation on a report. -/
inductive Operation where
  | add (field kind : Value)
  | sealUp
  | get (field : Value)
  | size
  | view
  | asMapping
  /-- Visits the failing fields; a function may be called with each. -/
  | each (visitor : Option FunctionId)
  | entry (index : Int)
  | changeEntry (index : Int) (name : String)
  | replace (entries : List (Value × Value))

/-- The answer of an operation. -/
inductive Answer where
  | nothing
  /-- The report is sealed. -/
  | sealed
  | kinds (kinds : Option (List String))
  | size (length : Nat) (isSealed : Bool)
  | view (report : Report)
  | groups (groups : List (String × List String))
  | visited (groups : List (String × List String))
  | entry (finding : Finding)

/-- What a visitor is called with: the kinds of rules that a field failed, and its name. -/
def visitArguments (field : String) (kinds : List String) : List Value :=
  [.tuple (kinds.map .text), .text field]

/-- Visits one failing field: calls the visitor, if there is one. -/
def visitWith (s : Surroundings) (visitor : Option FunctionId) (field : String)
    (kinds : List String) : Run (String × List String) := do
  match visitor with
  | some f => let _ ← Run.call s f (visitArguments field kinds)
  | none => pure ()
  return (field, kinds)

/-- A change of a report: the new report, or the old one and the failure. -/
def change (r : Report) (result : Except Failure Report) : Report × Run Answer :=
  match result with
  | .ok r' => (r', pure .nothing)
  | .error failure => (r, .fail failure)

/-- Performs one operation. -/
def perform (s : Surroundings) (r : Report) : Operation → Report × Run Answer
  | .add field kind => r.change (r.add field kind)
  | .sealUp => (r.sealUp, pure .sealed)
  | .get field => (r, .ofResult ((r.get? field).map .kinds))
  | .size => (r, pure (.size r.length r.isSealed))
  | .view => (r, pure (.view r))
  | .asMapping => (r, pure (.groups r.groups))
  | .each visitor => (r, (r.each (visitWith s visitor)).andThen fun groups => pure (.visited groups))
  | .entry index => (r, .ofResult ((r.entry index).map .entry))
  | .changeEntry index name => r.change (r.changeEntry index name)
  | .replace entries => r.change (r.replace entries)

/-- Performs operations one after the other: the report after all of them, and what each gave. -/
def performAll (s : Surroundings) (r : Report) : List Operation → Report × List (Run Answer)
  | [] => (r, [])
  | operation :: rest =>
    let (r, answer) := r.perform s operation
    let (r, answers) := r.performAll s rest
    (r, answer :: answers)

end FieldRules.Report
