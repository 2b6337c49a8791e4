import FieldRules.Run
import FieldRules.Schema

/-!
# Reports

A report collects findings, each a field and the kind of a rule that the field failed, in the order
in which they were made. Findings are read field by field: the fields in the order of their first
finding, each with the kinds of all its findings in order. Once a report is sealed its findings stay
as they are.

What reads a report never changes it, so whatever is read depends on the findings alone. An
operation that fails leaves the report as it was.

## Main definitions

* `Finding`, `Report` — findings and reports
* `Report.groups`, `Report.get?` — the findings field by field
* `Report.record`, `Report.sealUp`, `Report.replace` — changes
* `Report.each` — a visit of all failing fields
-/

namespace FieldRules

/-- A field and the kind of a rule that it failed. -/
structure Finding where
  field : String
  kind : String
  deriving DecidableEq

/-- The finding of two values that must be texts, found at the given place; both are checked. -/
def Finding.ofValues (place : List PathStep) (field kind : Value) : Except (List Fault) Finding :=
  match field.asText (place ++ [.field "attribute"]), kind.asText (place ++ [.field "rule_kind"]) with
  | .ok field, .ok kind => .ok ⟨field, kind⟩
  | .error fault, .ok _ => .error [fault]
  | .ok _, .error fault => .error [fault]
  | .error first, .error second => .error [first, second]

/-- The findings made so far, and whether more may be made. -/
structure Report where
  findings : List Finding
  isSealed : Bool
  deriving DecidableEq

namespace Report

/-- A report without findings. -/
def empty : Report :=
  ⟨[], false⟩

/-- The findings of pairs of values, every one of which is checked: the faults of all, or the
findings. -/
def findingsOf? (index : Nat) : List (Value × Value) → Except (List Fault) (List Finding)
  | [] => .ok []
  | (field, kind) :: rest =>
    match Finding.ofValues [.field "entries", .index index] field kind,
      findingsOf? (index + 1) rest with
    | .ok finding, .ok findings => .ok (finding :: findings)
    | .error faults, .ok _ => .error faults
    | .ok _, .error faults => .error faults
    | .error first, .error others => .error (first ++ others)

/-- A report of the given findings. -/
def ofValues (entries : List (Value × Value)) : Except Failure Report :=
  match findingsOf? 0 entries with
  | .ok findings => .ok ⟨findings, false⟩
  | .error faults => .error (.invalid faults)

/-! ## Reading -/

/-- Puts a finding with the others of its field, or after all fields if it is the first. -/
def addToGroup : List (String × List String) → Finding → List (String × List String)
  | [], finding => [(finding.field, [finding.kind])]
  | (field, kinds) :: rest, finding =>
    if field = finding.field then (field, kinds ++ [finding.kind]) :: rest
    else (field, kinds) :: addToGroup rest finding

/-- Findings field by field. -/
def groupsOf (findings : List Finding) : List (String × List String) :=
  findings.foldl addToGroup []

theorem groupsOf_append_singleton (findings : List Finding) (finding : Finding) :
    groupsOf (findings ++ [finding]) = addToGroup (groupsOf findings) finding := by
  simp [groupsOf]

/-- The findings of a report field by field. -/
def groups (r : Report) : List (String × List String) :=
  groupsOf r.findings

/-- The number of findings. -/
def length (r : Report) : Nat :=
  r.findings.length

/-- The kinds of rules that a field failed, none if it failed no rule. -/
def kindsOf? (r : Report) (field : String) : Option (List String) :=
  r.groups.lookup field

/-- The kinds of rules that the field of a given name failed. The name has to be one that could be a
key. -/
def get? (r : Report) (field : Value) : Except Failure (Option (List String)) :=
  (Mapping.asKey field).map fun
    | .text name => r.kindsOf? name
    | _ => none

/-- Visits the failing fields in order, up to the first visit that fails. -/
def visitAll {α : Type} (visit : String → List String → Run α) :
    List (String × List String) → Run (List α)
  | [] => pure []
  | (field, kinds) :: rest => do
    let result ← visit field kinds
    let results ← visitAll visit rest
    return result :: results

/-- Visits the failing fields of a report. -/
def each {α : Type} (r : Report) (visit : String → List String → Run α) : Run (List α) :=
  visitAll visit r.groups

/-! ## Changing -/

/-- Adds a finding at the end. -/
def record (r : Report) (finding : Finding) : Except Failure Report :=
  if r.isSealed then .error .sealedAgainstAdding
  else .ok { r with findings := r.findings ++ [finding] }

@[simp] theorem record_of_isSealed {r : Report} (h : r.isSealed = true) (finding : Finding) :
    r.record finding = .error .sealedAgainstAdding := by
  simp [record, h]

@[simp] theorem record_of_not_isSealed {r : Report} (h : r.isSealed = false) (finding : Finding) :
    r.record finding = .ok { r with findings := r.findings ++ [finding] } := by
  simp [record, h]

/-- Adds the finding of two values. A sealed report refuses before the values are looked at. -/
def add (r : Report) (field kind : Value) : Except Failure Report :=
  if r.isSealed then .error .sealedAgainstAdding
  else
    match Finding.ofValues [] field kind with
    | .ok finding => r.record finding
    | .error faults => .error (.invalid faults)

/-- Ends the collection of findings. -/
def sealUp (r : Report) : Report :=
  { r with isSealed := true }

@[simp] theorem findings_sealUp (r : Report) : r.sealUp.findings = r.findings := rfl

@[simp] theorem isSealed_sealUp (r : Report) : r.sealUp.isSealed = true := rfl

@[simp] theorem groups_sealUp (r : Report) : r.sealUp.groups = r.groups := rfl

/-- The findings of pairs of values, up to the first that is no finding. -/
def newFindings : List (Value × Value) → Except Failure (List Finding)
  | [] => .ok []
  | (field, kind) :: rest =>
    match Finding.ofValues [] field kind with
    | .ok finding => (newFindings rest).map (finding :: ·)
    | .error faults => .error (.invalid faults)

/-- Replaces all findings. The new ones are made before the report refuses. -/
def replace (r : Report) (entries : List (Value × Value)) : Except Failure Report :=
  match newFindings entries with
  | .error failure => .error failure
  | .ok findings =>
    if r.isSealed then .error .sealedAgainstReplacing else .ok { r with findings := findings }

/-- The finding at an index, where negative indices count from the end. -/
def entry (r : Report) (index : Int) : Except Failure Finding :=
  let position := if index < 0 then index + r.length else index
  if 0 ≤ position then
    match r.findings[position.toNat]? with
    | some finding => .ok finding
    | none => .error .indexOutOfRange
  else .error .indexOutOfRange

/-- A finding cannot be changed: the attempt fails for want of the finding or of the right. -/
def changeEntry (r : Report) (index : Int) (name : String) : Except Failure Report :=
  match r.entry index with
  | .ok _ => .error (.invalid [⟨.isFrozen, [.field name]⟩])
  | .error failure => .error failure

end Report

end FieldRules
