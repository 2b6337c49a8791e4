import FieldRules.Report.Operation

/-!
# Reports that keep their groups

Putting findings into groups takes a walk through all of them. A report therefore keeps the groups
it made last, and uses them again as long as it holds the list of findings they were made of. What
is compared is which list it is, and not what stands in it: lists are told apart by their numbers.

A list of findings never changes. A change of the report makes a new list, and one that was there
before may be put back.

## Main definitions

* `IndexedReport` — a report with the groups made last
* `IndexedReport.grouped` — the groups, made again only if those that are kept are of another list
* `IndexedReport.perform`, `IndexedReport.putBack` — operations, and the return of an earlier list
* `IndexedReport.Move`, `IndexedReport.moveAll` — sequences of both
-/

namespace FieldRules

/-- A report that keeps the groups it made last. -/
structure IndexedReport where
  /-- All lists of findings that were made. The number of a list is its place here. -/
  lists : List (List Finding)
  /-- The number of the list that the report holds. -/
  held : Nat
  /-- The groups made last, with the number of the list that they were made of. -/
  index : Option (Nat × List (String × List String))
  isSealed : Bool
  held_lt : held < lists.length

namespace IndexedReport

/-- A report whose groups are not made yet. -/
def ofReport (r : Report) : IndexedReport :=
  ⟨[r.findings], 0, none, r.isSealed, by simp⟩

/-- A report of the given findings. -/
def ofValues (entries : List (Value × Value)) : Except Failure IndexedReport :=
  (Report.ofValues entries).map ofReport

/-- The findings of the list that is held. -/
def findings (r : IndexedReport) : List Finding :=
  r.lists.get ⟨r.held, r.held_lt⟩

/-- What the report is without its groups. -/
def plain (r : IndexedReport) : Report :=
  ⟨r.findings, r.isSealed⟩

/-! ## Reading -/

/-- The groups that are kept, if they are of the list that is held. -/
def kept? (r : IndexedReport) : Option (List (String × List String)) :=
  match r.index with
  | some (number, groups) => if number = r.held then some groups else none
  | none => none

/-- The findings field by field, and the report that keeps them so. -/
def grouped (r : IndexedReport) : List (String × List String) × IndexedReport :=
  match r.kept? with
  | some groups => (groups, r)
  | none =>
    let groups := Report.groupsOf r.findings
    (groups, { r with index := some (r.held, groups) })

/-- The number of findings. -/
def length (r : IndexedReport) : Nat :=
  r.findings.length

/-- Whether there is a finding. -/
def hasFindings (r : IndexedReport) : Bool :=
  !r.findings.isEmpty

/-- The kinds of rules that the field of a given name failed. -/
def get? (r : IndexedReport) (field : Value) : Except Failure (Option (List String)) :=
  (Mapping.asKey field).map fun
    | .text name => r.grouped.1.lookup name
    | _ => none

/-- Visits the failing fields. -/
def each {α : Type} (r : IndexedReport) (visit : String → List String → Run α) : Run (List α) :=
  Report.visitAll visit r.grouped.1

/-! ## Changing -/

/-- Holds a new list of findings. -/
def hold (r : IndexedReport) (findings : List Finding) : IndexedReport :=
  { r with lists := r.lists ++ [findings], held := r.lists.length, held_lt := by simp }

/-- Holds the findings of a changed report, or fails and stays. -/
def change (r : IndexedReport) (result : Except Failure Report) :
    IndexedReport × Run Report.Answer :=
  match result with
  | .ok changed => (r.hold changed.findings, pure .nothing)
  | .error failure => (r, .fail failure)

/-- Ends the collection of findings. The groups are made before. -/
def sealUp (r : IndexedReport) : IndexedReport :=
  { r.grouped.2 with isSealed := true }

/-- Puts a list back by its number. -/
def putBack (r : IndexedReport) (number : Nat) : Except Failure IndexedReport :=
  if h : number < r.lists.length then
    if r.isSealed then .error .sealedAgainstReplacing
    else .ok { r with held := number, held_lt := h }
  else .error .indexOutOfRange

/-! ## Operations -/

/-- Performs one operation. -/
def perform (s : Surroundings) (r : IndexedReport) :
    Report.Operation → IndexedReport × Run Report.Answer
  | .add field kind => r.change (r.plain.add field kind)
  | .sealUp => (r.sealUp, pure .sealed)
  | .get field => (r.grouped.2, .ofResult ((r.get? field).map .kinds))
  | .size => (r, pure (.size r.length r.isSealed))
  | .view => (r.grouped.2, pure (.view r.plain))
  | .asMapping => (r.grouped.2, pure (.groups r.grouped.1))
  | .each visitor =>
    (r.grouped.2,
      (r.each (Report.visitWith s visitor)).andThen fun groups => pure (.visited groups))
  | .entry index => (r, .ofResult ((r.plain.entry index).map .entry))
  | .changeEntry index name => r.change (r.plain.changeEntry index name)
  | .replace entries => r.change (r.plain.replace entries)

/-- An operation, or the return of an earlier list. -/
inductive Move where
  | perform (operation : Report.Operation)
  | putBack (number : Nat)

/-- Whether a move only reads the report. -/
def Move.isReading : Move → Bool
  | .perform (.get _) | .perform .size | .perform .view | .perform .asMapping
  | .perform (.each _) | .perform (.entry _) => true
  | _ => false

/-- Makes one move. A move that fails leaves the report as it was. -/
def move (s : Surroundings) (r : IndexedReport) : Move → IndexedReport × Run Report.Answer
  | .perform operation => r.perform s operation
  | .putBack number =>
    match r.putBack number with
    | .ok r' => (r', pure .nothing)
    | .error failure => (r, .fail failure)

/-- Makes moves one after the other: the report after all of them, and what each gave. -/
def moveAll (s : Surroundings) (r : IndexedReport) :
    List Move → IndexedReport × List (Run Report.Answer)
  | [] => (r, [])
  | m :: rest =>
    let (r, answer) := r.move s m
    let (r, answers) := r.moveAll s rest
    (r, answer :: answers)

end IndexedReport

end FieldRules
