import FieldRules.Form
import FieldRules.Proofs.TextKeys
import FieldRules.Proofs.Trials
import Mathlib.Data.List.Induction

/-!
# Findings field by field

A report keeps its findings in one list, and puts them into groups when it is read. What is found in
a group is told here by the list alone: a field has a group exactly if there is a finding for it, and
the group holds the kinds of all these findings in their order.

A visit of all groups comes to its end if that of each one does, and else it ends with the first that does
not. Messages that are texts can be read in such a visit.

## Main definitions

* `Report.kindsIn` — the kinds of the findings for a field
* `Report.lacks` — fields that are not found

## Main statements

* `Report.lookup_groupsOf`, `Report.kindsOf?_eq` — what is found under a field
* `Form.isClear_iff` — the fields that are in no finding
* `Report.visitAll_of_answered`, `Report.visitAll_of_failure` — visits of all groups
* `Form.result_errorMessages` — forms whose messages can be read
-/

namespace FieldRules

namespace Report

/-- Whether a look-up of a field comes to nothing. -/
def lacks (report : Report) (key : Value) : Bool :=
  report.get? key matches .ok none

theorem lacks_iff {report : Report} {key : Value} :
    report.lacks key = true ↔ report.get? key = .ok none := by
  unfold lacks
  split <;> simp_all

/-- The kinds of the findings for a field, in order. -/
def kindsIn (findings : List Finding) (field : String) : List String :=
  (findings.filter (·.field = field)).map Finding.kind

@[simp] theorem kindsIn_append (first second : List Finding) (field : String) :
    kindsIn (first ++ second) field = kindsIn first field ++ kindsIn second field := by
  simp [kindsIn]

theorem kindsIn_eq_nil_iff {findings : List Finding} {field : String} :
    kindsIn findings field = [] ↔ ∀ finding ∈ findings, finding.field ≠ field := by
  simp [kindsIn]

theorem lookup_cons (name : String) (kinds : List String) (rest : List (String × List String))
    (field : String) :
    ((name, kinds) :: rest).lookup field =
      if field = name then some kinds else rest.lookup field := by
  by_cases h : field = name
  · subst h
    simp
  · have hne : (field == name) = false := beq_false_of_ne h
    rw [List.lookup_cons, hne, if_neg h]

/-- A finding is put into the group of its field, and all other groups stay as they are. -/
theorem lookup_addToGroup (groups : List (String × List String)) (finding : Finding)
    (field : String) :
    (addToGroup groups finding).lookup field =
      if field = finding.field then some ((groups.lookup field).getD [] ++ [finding.kind])
      else groups.lookup field := by
  induction groups with
  | nil => simp [addToGroup, lookup_cons]
  | cons group rest ih =>
      obtain ⟨name, kinds⟩ := group
      by_cases hname : name = finding.field
      · subst hname
        simp only [addToGroup, if_true, lookup_cons]
        split <;> simp
      · simp only [addToGroup, hname, if_false, lookup_cons, ih]
        by_cases h : field = name
        · subst h
          simp [hname]
        · simp [h]

/-- A field is found with the kinds of all its findings, if there are any. -/
theorem lookup_groupsOf (findings : List Finding) (field : String) :
    (groupsOf findings).lookup field =
      if kindsIn findings field = [] then none else some (kindsIn findings field) := by
  -- Findings join the groups from the first to the last, so the induction takes off the last one.
  induction findings using List.reverseRecOn with
  | nil => rfl
  | append_singleton findings finding ih =>
      rw [groupsOf_append_singleton, lookup_addToGroup, ih]
      by_cases h : field = finding.field
      · subst h
        have hlast : kindsIn (findings ++ [finding]) finding.field =
            kindsIn findings finding.field ++ [finding.kind] := by
          simp [kindsIn]
        have hsome : kindsIn findings finding.field ++ [finding.kind] ≠ [] := by simp
        rw [if_pos rfl, hlast, if_neg hsome]
        by_cases hnone : kindsIn findings finding.field = [] <;> simp [hnone]
      · have hsame : kindsIn (findings ++ [finding]) field = kindsIn findings field := by
          simp [kindsIn, Ne.symm h]
        rw [if_neg h, hsame]

theorem kindsOf?_eq (report : Report) (field : String) :
    report.kindsOf? field =
      if kindsIn report.findings field = [] then none else some (kindsIn report.findings field) :=
  lookup_groupsOf report.findings field

/-- A field is not found exactly if there is no finding for it. -/
theorem kindsOf?_eq_none_iff {report : Report} {field : String} :
    report.kindsOf? field = none ↔ ∀ finding ∈ report.findings, finding.field ≠ field := by
  rw [kindsOf?_eq, ← kindsIn_eq_nil_iff]
  split <;> simp_all

end Report

namespace Form

/-- A field is clear exactly if nothing is found under it. -/
theorem isClear_iff {report : Report} {key : Value} (hkey : key.canBeKey = true) :
    isClear report key = true ↔ report.get? key = .ok none := by
  cases key <;> simp_all [isClear, Report.get?, Mapping.asKey, Except.map]

/-- Fields with the same findings in two reports are clear in both or in neither. -/
theorem isClear_congr {report report' : Report} {key : Value}
    (h : ∀ field, key = .text field → report'.kindsOf? field = report.kindsOf? field) :
    isClear report' key = isClear report key := by
  cases key with
  | text field => simp only [isClear, h field rfl]
  | _ => rfl

/-- Of keys that can be looked up, those are clear under which nothing is found. -/
theorem filter_isClear_eq {report : Report} {keys : List Value}
    (hkeys : ∀ key ∈ keys, key.canBeKey = true) :
    keys.filter (isClear report) = keys.filter report.lacks := by
  refine List.filter_congr fun key hkey => ?_
  rw [Bool.eq_iff_iff, isClear_iff (hkeys key hkey), Report.lacks_iff]

end Form

/-! ## Messages -/

section Visits

variable {α : Type} {visit : String → List String → Run α}

/-- A visit of all groups takes the calls of the single visits and has their results. -/
theorem Report.visitAll_of_answered (answer : String → List String → α)
    {groups : List (String × List String)}
    (h : ∀ group ∈ groups, (visit group.1 group.2).result = .ok (answer group.1 group.2)) :
    visitAll visit groups =
      ⟨groups.flatMap fun group => (visit group.1 group.2).calls,
        .ok (groups.map fun group => answer group.1 group.2)⟩ := by
  induction groups with
  | nil => rfl
  | cons group rest ih =>
      obtain ⟨field, kinds⟩ := group
      obtain ⟨hgroup, hrest⟩ := List.forall_mem_cons.mp h
      rcases hvisit : visit field kinds with ⟨calls, result⟩
      obtain rfl : result = .ok (answer field kinds) := by simpa [hvisit] using hgroup
      simp [visitAll, hvisit, ih hrest]

/-- The first visit that fails is the last one. -/
theorem Report.visitAll_of_failure {before after : List (String × List String)} {field : String}
    {kinds : List String} {failure : Failure}
    (hbefore : ∀ b ∈ before, ∃ a, (visit b.1 b.2).result = .ok a)
    (h : (visit field kinds).result = .error failure) :
    visitAll visit (before ++ (field, kinds) :: after) =
      ⟨(before ++ [(field, kinds)]).flatMap fun b => (visit b.1 b.2).calls, .error failure⟩ := by
  induction before with
  | nil =>
      rcases hvisit : visit field kinds with ⟨calls, result⟩
      obtain rfl : result = .error failure := by simpa [hvisit] using h
      simp [visitAll, hvisit]
  | cons b rest ih =>
      obtain ⟨name, found⟩ := b
      obtain ⟨⟨a, ha⟩, hrest⟩ := List.forall_mem_cons.mp hbefore
      rcases hvisit : visit name found with ⟨calls, result⟩
      obtain rfl : result = .ok a := by simpa [hvisit] using ha
      simp [visitAll, hvisit, ih hrest]

/-- A visit of all groups has the results of the single visits. -/
theorem Report.result_visitAll (answer : String → List String → α)
    (h : ∀ field kinds, (visit field kinds).result = .ok (answer field kinds))
    (groups : List (String × List String)) :
    (visitAll visit groups).result = .ok (groups.map fun group => answer group.1 group.2) := by
  rw [visitAll_of_answered answer fun group _ => h group.1 group.2]

end Visits

/-- A message that is no function is the answer itself. -/
theorem Form.result_message_text {form : Form} {field : String}
    (h : ∀ f, Mapping.getOrNull form.messages (.text field) ≠ .function f) (s : Surroundings) :
    (form.message s (.text field)).result =
      .ok (Mapping.getOrNull form.messages (.text field)) := by
  simp only [message, Run.result_bind, Mapping.asKey, Value.canBeKey, if_true, Run.result_ofResult,
    Except.bind]
  rfl

/-- A form whose messages are texts has a message, or none, for every failing field. -/
theorem Form.result_errorMessages (form : Form)
    (htexts : ∀ entry ∈ form.messages, ∃ message, entry.2 = .text message) (s : Surroundings)
    (report : Report) :
    (form.errorMessages s report).result =
      .ok (report.groups.map fun group =>
        (group.1, Mapping.getOrNull form.messages (.text group.1))) := by
  refine Report.result_visitAll
    (fun field _ => (field, Mapping.getOrNull form.messages (.text field))) (fun field _ => ?_) _
  have hnone : ∀ f, Mapping.getOrNull form.messages (.text field) ≠ .function f := by
    intro f hf
    cases hget : Mapping.get? form.messages (.text field) with
    | none => simp [Mapping.getOrNull, hget] at hf
    | some value =>
        obtain ⟨key, hkey⟩ := Mapping.mem_of_get?_eq_some hget
        obtain ⟨text, rfl⟩ := htexts _ hkey
        simp [Mapping.getOrNull, hget] at hf
  have hmessage := result_message_text hnone s
  simp [Run.result_bind, hmessage, Except.bind]

end FieldRules
