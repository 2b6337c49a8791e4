import FieldRules.Proofs.Groups
import FieldRules.Report.Index
import Mathlib.Algebra.GroupWithZero.Nat

/-!
# Groups that are kept are those of the findings

The groups of a report can be told without making them one finding at a time: they are the fields of
the findings, each where it first comes, with the kinds of all its findings. A report that keeps its
groups has to show just these, whatever was read and written before and whether it succeeded or not.

That kept groups are used again is safe because a list of findings never changes: groups made of
a list stay the groups of that list, also when others were held in between. This is the invariant of
all moves, and from it everything that is read comes to what a report without kept groups would show.

## Main definitions

* `Report.listing` — the findings field by field, told from the list
* `IndexedReport.HasTrueIndex` — kept groups are those of the list they were made of
* `IndexedReport.bare` — the report without its groups
* `IndexedReport.Shows` — what is read is told by the findings

## Main statements

* `Report.groupsOf_eq_listing` — the groups are the listing
* `IndexedReport.moveAll_perform_eq` — operations come to the same as without kept groups
* `IndexedReport.shows_after_moves` — what is read is told by the findings, and reading changes no
  later answer
-/

namespace FieldRules

namespace Report

/-! ## Groups told from the list of findings -/

/-- The fields that have findings, each where it first comes. -/
def failingFields (findings : List Finding) : List String :=
  (findings.map Finding.field).eraseDups

/-- The findings field by field. -/
def listing (findings : List Finding) : List (String × List String) :=
  (failingFields findings).map fun field => (field, kindsIn findings field)

theorem mem_failingFields_iff {findings : List Finding} {field : String} :
    field ∈ failingFields findings ↔ ∃ finding ∈ findings, finding.field = field := by
  simp [failingFields]

theorem failingFields_append_singleton (findings : List Finding) (finding : Finding) :
    failingFields (findings ++ [finding]) =
      if finding.field ∈ failingFields findings then failingFields findings
      else failingFields findings ++ [finding.field] := by
  have hlast : ([finding.field].removeAll (findings.map Finding.field)).eraseDups =
      if finding.field ∈ findings.map Finding.field then [] else [finding.field] := by
    rw [List.removeAll, List.filter_cons]
    by_cases h : finding.field ∈ findings.map Finding.field <;> simp [h, List.eraseDups_cons]
  simp only [failingFields, List.map_append, List.map_singleton, List.eraseDups_append,
    List.mem_eraseDups, hlast]
  split
  · exact List.append_nil _
  · rfl

theorem nodup_failingFields (findings : List Finding) : (failingFields findings).Nodup := by
  induction findings using List.reverseRecOn with
  | nil => exact List.nodup_nil
  | append_singleton findings finding ih =>
      rw [failingFields_append_singleton]
      split
      · exact ih
      · rename_i hnew
        refine List.nodup_append.mpr ⟨ih, List.pairwise_singleton _ _, ?_⟩
        rintro field hfield other hother rfl
        exact hnew (List.mem_singleton.mp hother ▸ hfield)

theorem kindsIn_append_singleton (findings : List Finding) (finding : Finding) (field : String) :
    kindsIn (findings ++ [finding]) field =
      if field = finding.field then kindsIn findings field ++ [finding.kind]
      else kindsIn findings field := by
  by_cases h : field = finding.field
  · subst h
    simp [kindsIn]
  · simp [kindsIn, h, Ne.symm h]

/-- A finding is put into the group of its field wherever that group is, or makes a new one. -/
theorem addToGroup_map {names : List String} (hnames : names.Nodup) (kinds : String → List String)
    (finding : Finding) :
    addToGroup (names.map fun name => (name, kinds name)) finding =
      (names.map fun name =>
        (name, if name = finding.field then kinds name ++ [finding.kind] else kinds name)) ++
      if finding.field ∈ names then [] else [(finding.field, [finding.kind])] := by
  induction names with
  | nil => simp [addToGroup]
  | cons name rest ih =>
      obtain ⟨hname, hrest⟩ := List.nodup_cons.mp hnames
      by_cases h : name = finding.field
      · have hothers : ∀ other ∈ rest, other ≠ finding.field := by
          rintro other hother rfl
          exact hname (h ▸ hother)
        have hsame : (rest.map fun name =>
            (name, if name = finding.field then kinds name ++ [finding.kind] else kinds name)) =
              rest.map fun name => (name, kinds name) :=
          List.map_congr_left fun other hother => by rw [if_neg (hothers other hother)]
        simp [addToGroup, h, hsame]
      · simp [addToGroup, h, ih hrest, Ne.symm h]

/-- The groups are the failing fields with the kinds of their findings. -/
theorem groupsOf_eq_listing (findings : List Finding) : groupsOf findings = listing findings := by
  -- Groups are made from the first finding on, so one more finding is one at the end.
  induction findings using List.reverseRecOn with
  | nil => rfl
  | append_singleton findings finding ih =>
      rw [groupsOf_append_singleton, ih, listing, addToGroup_map (nodup_failingFields findings),
        listing, failingFields_append_singleton]
      by_cases h : finding.field ∈ failingFields findings
      · simp only [h, if_true, List.append_nil, kindsIn_append_singleton]
      · have hnone : kindsIn findings finding.field = [] := by
          rw [kindsIn_eq_nil_iff]
          intro other hother heq
          exact h (mem_failingFields_iff.mpr ⟨other, hother, heq⟩)
        simp only [h, if_false, List.map_append, List.map_singleton, kindsIn_append_singleton,
          if_true, hnone, List.nil_append]

theorem sum_length_addToGroup (groups : List (String × List String)) (finding : Finding) :
    ((addToGroup groups finding).map fun group => group.2.length).sum =
      (groups.map fun group => group.2.length).sum + 1 := by
  induction groups with
  | nil => rfl
  | cons group rest ih =>
      obtain ⟨name, kinds⟩ := group
      by_cases h : name = finding.field
      · simp only [addToGroup, h, if_true, List.map_cons, List.sum_cons, List.length_append,
          List.length_singleton]
        omega
      · simp only [addToGroup, h, if_false, List.map_cons, List.sum_cons, ih]
        omega

/-- Every finding is in one group. -/
theorem sum_length_groupsOf (findings : List Finding) :
    ((groupsOf findings).map fun group => group.2.length).sum = findings.length := by
  induction findings using List.reverseRecOn with
  | nil => rfl
  | append_singleton findings finding ih =>
      rw [groupsOf_append_singleton, sum_length_addToGroup, ih, List.length_append,
        List.length_singleton]

/-! ## Changes -/

/-- A finding is added to an open report only, at the end. -/
theorem add_eq_ok_iff {report changed : Report} {field kind : Value} :
    report.add field kind = .ok changed ↔ report.isSealed = false ∧
      ∃ finding, Finding.ofValues [] field kind = .ok finding ∧
        changed = ⟨report.findings ++ [finding], false⟩ := by
  obtain ⟨findings, isSealed⟩ := report
  cases isSealed with
  | true => simp [add]
  | false => cases hfinding : Finding.ofValues [] field kind <;> simp [add, hfinding, eq_comm]

/-- The findings of an open report only are replaced. -/
theorem replace_eq_ok_iff {report changed : Report} {entries : List (Value × Value)} :
    report.replace entries = .ok changed ↔ report.isSealed = false ∧
      ∃ findings, newFindings entries = .ok findings ∧ changed = ⟨findings, false⟩ := by
  obtain ⟨findings, isSealed⟩ := report
  cases hnew : newFindings entries <;> cases isSealed <;> simp [replace, hnew, eq_comm]

theorem changeEntry_ne_ok (report changed : Report) (index : Int) (name : String) :
    report.changeEntry index name ≠ .ok changed := by
  unfold changeEntry
  split <;> simp

/-! ## Visits -/

/-- A visit without a visitor comes past all groups. -/
theorem visitAll_visitWith_none (s : Surroundings) (groups : List (String × List String)) :
    visitAll (visitWith s none) groups = pure groups := by
  induction groups with
  | nil => rfl
  | cons group rest ih =>
      obtain ⟨field, kinds⟩ := group
      simp [visitAll, visitWith, ih]

end Report

namespace IndexedReport

variable {s : Surroundings} {r : IndexedReport}

/-! ## The groups that are kept -/

/-- Groups that are kept are those of the list they were made of. -/
def HasTrueIndex (r : IndexedReport) : Prop :=
  ∀ number groups, r.index = some (number, groups) →
    ∃ findings, r.lists[number]? = some findings ∧ groups = Report.groupsOf findings

theorem lists_held (r : IndexedReport) : r.lists[r.held]? = some r.findings := by
  rw [List.getElem?_eq_getElem r.held_lt]
  rfl

theorem hasTrueIndex_ofReport (report : Report) : (ofReport report).HasTrueIndex := by
  simp [HasTrueIndex, ofReport]

theorem kept?_eq_some_iff {groups : List (String × List String)} :
    r.kept? = some groups ↔ r.index = some (r.held, groups) := by
  unfold kept?
  cases r.index with
  | none => simp
  | some kept =>
      obtain ⟨number, made⟩ := kept
      by_cases hnumber : number = r.held <;> simp [hnumber]

/-- The groups are those of the findings, kept or not. -/
theorem HasTrueIndex.grouped_eq (h : r.HasTrueIndex) :
    r.grouped.1 = Report.groupsOf r.findings := by
  unfold grouped
  cases hkept : r.kept? with
  | none => rfl
  | some groups =>
      obtain ⟨findings, hlist, hgroups⟩ := h r.held groups (kept?_eq_some_iff.mp hkept)
      rw [lists_held] at hlist
      exact hgroups.trans (congrArg Report.groupsOf (Option.some.inj hlist).symm)

/-- The report without its groups. -/
def bare (r : IndexedReport) : IndexedReport :=
  { r with index := none }

@[simp] theorem plain_bare (r : IndexedReport) : r.bare.plain = r.plain := rfl

theorem hasTrueIndex_bare (r : IndexedReport) : r.bare.HasTrueIndex := by
  simp [HasTrueIndex, bare]

/-- Reading the groups changes nothing but the groups that are kept. -/
@[simp] theorem bare_grouped (r : IndexedReport) : r.grouped.2.bare = r.bare := by
  unfold grouped
  split <;> rfl

theorem plain_eq_of_bare_eq {r r' : IndexedReport} (h : r.bare = r'.bare) : r.plain = r'.plain := by
  rw [← plain_bare r, h, plain_bare]

/-! ## Single moves -/

theorem HasTrueIndex.grouped (h : r.HasTrueIndex) : r.grouped.2.HasTrueIndex := by
  unfold IndexedReport.grouped
  split
  · exact h
  · intro number groups hindex
    obtain ⟨rfl, rfl⟩ := Prod.mk.inj (Option.some.inj hindex)
    exact ⟨r.findings, r.lists_held, rfl⟩

@[simp] theorem findings_hold (r : IndexedReport) (findings : List Finding) :
    (r.hold findings).findings = findings := by
  simp [IndexedReport.findings, hold]

@[simp] theorem isSealed_hold (r : IndexedReport) (findings : List Finding) :
    (r.hold findings).isSealed = r.isSealed := rfl

/-- Lists are only added, so the groups made of one stay those of that list. -/
theorem HasTrueIndex.hold (h : r.HasTrueIndex) (findings : List Finding) :
    (r.hold findings).HasTrueIndex := by
  intro number groups hindex
  obtain ⟨made, hlist, hgroups⟩ := h number groups hindex
  obtain ⟨hnumber, -⟩ := List.getElem?_eq_some_iff.mp hlist
  exact ⟨made, (List.getElem?_append_left hnumber).trans hlist, hgroups⟩

theorem HasTrueIndex.change (h : r.HasTrueIndex) (result : Except Failure Report) :
    (r.change result).1.HasTrueIndex := by
  cases result with
  | ok changed => exact h.hold changed.findings
  | error failure => exact h

/-- What an operation can do: change the findings, seal the report, or read it and keep the groups. -/
inductive Effect (s : Surroundings) (operation : Report.Operation) : Prop
  | changes (result : Report → Except Failure Report)
    (perform_eq : ∀ r : IndexedReport, r.perform s operation = r.change (result r.plain))
    (isReading_eq : (Move.perform operation).isReading = false)
  | seals (perform_eq : ∀ r : IndexedReport, r.perform s operation = (r.sealUp, pure .sealed))
    (isReading_eq : (Move.perform operation).isReading = false)
  | reads (perform_eq : ∀ r : IndexedReport,
      (r.perform s operation).1 = r ∨ (r.perform s operation).1 = r.grouped.2)

theorem effect (s : Surroundings) (operation : Report.Operation) : Effect s operation := by
  cases operation with
  | add field kind => exact .changes (·.add field kind) (fun _ => rfl) rfl
  | replace entries => exact .changes (·.replace entries) (fun _ => rfl) rfl
  | changeEntry index name => exact .changes (·.changeEntry index name) (fun _ => rfl) rfl
  | sealUp => exact .seals (fun _ => rfl) rfl
  | size => exact .reads fun _ => .inl rfl
  | entry index => exact .reads fun _ => .inl rfl
  | get | view | asMapping | each => exact .reads fun _ => .inr rfl

/-- An earlier list is put back, or nothing happens. -/
theorem putBack_cases (s : Surroundings) (r : IndexedReport) (number : Nat) :
    (r.move s (.putBack number)).1 = r ∨
      ∃ h, (r.move s (.putBack number)).1 = { r with held := number, held_lt := h } := by
  simp only [move, putBack]
  split <;> rename_i hput
  · split at hput
    · rename_i hnumber
      split at hput
      · cases hput
      · exact .inr ⟨hnumber, (Except.ok.inj hput).symm⟩
    · cases hput
  · exact .inl rfl

/-- Whether and which list is put back does not depend on the groups that are kept. -/
theorem move_putBack_bare (s : Surroundings) (r : IndexedReport) (number : Nat) :
    (r.bare.move s (.putBack number)).1.bare = (r.move s (.putBack number)).1.bare ∧
      (r.bare.move s (.putBack number)).2 = (r.move s (.putBack number)).2 := by
  by_cases hnumber : number < r.lists.length <;> by_cases hsealed : r.isSealed = true <;>
    simp [IndexedReport.move, putBack, bare, hnumber, hsealed]

/-- Kept groups stay those of the list that they were made of, whatever is done. -/
theorem HasTrueIndex.move (h : r.HasTrueIndex) (m : Move) : (r.move s m).1.HasTrueIndex := by
  cases m with
  | perform operation =>
      show (r.perform s operation).1.HasTrueIndex
      rcases effect s operation with ⟨result, hperform, -⟩ | ⟨hperform, -⟩ | hperform
      · rw [hperform]
        exact h.change _
      · rw [hperform]
        exact h.grouped
      · rcases hperform r with hstays | hgroups
        · rwa [hstays]
        · rw [hgroups]
          exact h.grouped
  | putBack number =>
      -- Which list is held does not matter for the groups that are kept.
      rcases putBack_cases s r number with hstays | ⟨hnumber, hback⟩
      · rwa [hstays]
      · rw [hback]
        exact h

theorem bare_change (r : IndexedReport) (result : Except Failure Report) :
    (r.change result).1.bare = (r.bare.change result).1.bare := by
  cases result <;> rfl

theorem bare_sealUp (r : IndexedReport) : r.sealUp.bare = { r.bare with isSealed := true } := by
  rw [← bare_grouped r]
  rfl

theorem bare_perform_of_reads {operation : Report.Operation} (r : IndexedReport)
    (hperform : ∀ r : IndexedReport,
      (r.perform s operation).1 = r ∨ (r.perform s operation).1 = r.grouped.2) :
    (r.perform s operation).1.bare = r.bare := by
  rcases hperform r with hstays | hgroups
  · rw [hstays]
  · rw [hgroups, bare_grouped]

/-- What becomes of the report without its groups does not depend on the groups that were kept. -/
theorem bare_move (r : IndexedReport) (m : Move) :
    (r.move s m).1.bare = (r.bare.move s m).1.bare := by
  cases m with
  | perform operation =>
      show (r.perform s operation).1.bare = (r.bare.perform s operation).1.bare
      -- A sealing makes the groups of `r.bare` anew and may use those that `r` keeps.
      rcases effect s operation with ⟨result, hperform, -⟩ | ⟨hperform, -⟩ | hperform
      · rw [hperform, hperform]
        exact bare_change r _
      · rw [hperform, hperform]
        exact (bare_sealUp r).trans (bare_sealUp r.bare).symm
      · rw [bare_perform_of_reads r hperform, bare_perform_of_reads r.bare hperform]
        rfl
  | putBack number => exact (move_putBack_bare s r number).1.symm

/-- Reading changes nothing but the groups that are kept. -/
theorem bare_move_of_isReading {m : Move} (hm : m.isReading = true) (r : IndexedReport) :
    (r.move s m).1.bare = r.bare := by
  cases m with
  | perform operation =>
      rcases effect s operation with ⟨-, -, hreading⟩ | ⟨-, hreading⟩ | hperform
      · rw [hreading] at hm
        cases hm
      · rw [hreading] at hm
        cases hm
      · exact bare_perform_of_reads r hperform
  | putBack number => cases hm

/-! ## Operations with and without kept groups -/

theorem answer_change (r : IndexedReport) (result : Except Failure Report) :
    (r.change result).2 = (r.plain.change result).2 := by
  cases result <;> rfl

/-- A change that leaves the seal alone comes to the same report. -/
theorem plain_change {result : Except Failure Report}
    (h : ∀ changed, result = .ok changed → changed.isSealed = r.isSealed) :
    (r.change result).1.plain = (r.plain.change result).1 := by
  cases result with
  | error failure => rfl
  | ok changed =>
      obtain ⟨findings, isSealed⟩ := changed
      have hsealed : r.isSealed = isSealed := (h _ rfl).symm
      simp [change, Report.change, plain, hsealed]

theorem plain_grouped (r : IndexedReport) : r.grouped.2.plain = r.plain :=
  plain_eq_of_bare_eq (bare_grouped r)

theorem plain_sealUp (r : IndexedReport) : r.sealUp.plain = r.plain.sealUp := by
  rw [← plain_grouped r]
  rfl

/-- An operation comes to the same report and the same answer as without kept groups. -/
theorem HasTrueIndex.perform_eq (h : r.HasTrueIndex) (operation : Report.Operation) :
    (r.perform s operation).1.plain = (r.plain.perform s operation).1 ∧
      (r.perform s operation).2 = (r.plain.perform s operation).2 := by
  have hgroups : r.grouped.1 = r.plain.groups := h.grouped_eq
  cases operation with
  | add field kind =>
      refine ⟨plain_change fun changed hadd => ?_, answer_change r _⟩
      obtain ⟨hopen, -, -, rfl⟩ := Report.add_eq_ok_iff.mp hadd
      exact hopen.symm
  | replace entries =>
      refine ⟨plain_change fun changed hreplace => ?_, answer_change r _⟩
      obtain ⟨hopen, -, -, rfl⟩ := Report.replace_eq_ok_iff.mp hreplace
      exact hopen.symm
  | changeEntry index name =>
      refine ⟨plain_change fun changed hchange => ?_, answer_change r _⟩
      exact absurd hchange (Report.changeEntry_ne_ok r.plain changed index name)
  | sealUp => exact ⟨plain_sealUp r, rfl⟩
  | size => exact ⟨rfl, rfl⟩
  | entry index => exact ⟨rfl, rfl⟩
  | view => exact ⟨plain_grouped r, rfl⟩
  | get field =>
      have hget : r.get? field = r.plain.get? field := by
        rw [get?, hgroups]
        rfl
      exact ⟨plain_grouped r, by simp only [perform, hget, Report.perform]⟩
  | asMapping =>
      refine ⟨plain_grouped r, ?_⟩
      simp only [perform, Report.perform, hgroups]
  | each visitor =>
      refine ⟨plain_grouped r, ?_⟩
      simp only [perform, IndexedReport.each, Report.perform, Report.each, hgroups]

/-- The answer to a move does not depend on the groups that are kept. -/
theorem HasTrueIndex.answer_move (h : r.HasTrueIndex) (m : Move) :
    (r.move s m).2 = (r.bare.move s m).2 := by
  cases m with
  | perform operation =>
      have hbare := (hasTrueIndex_bare r).perform_eq (s := s) operation
      exact (h.perform_eq operation).2.trans hbare.2.symm
  | putBack number => exact (move_putBack_bare s r number).2.symm

/-! ## Sequences of moves -/

/-- Kept groups stay those of the list that they were made of through all moves. -/
theorem HasTrueIndex.moveAll (h : r.HasTrueIndex) (moves : List Move) :
    (r.moveAll s moves).1.HasTrueIndex := by
  induction moves generalizing r with
  | nil => exact h
  | cons m rest ih => exact ih (h.move m)

/-- What becomes of the report without its groups does not depend on the groups that were kept. -/
theorem bare_moveAll_congr {r r' : IndexedReport} (h : r.bare = r'.bare) (moves : List Move) :
    (r.moveAll s moves).1.bare = (r'.moveAll s moves).1.bare := by
  induction moves generalizing r r' with
  | nil => exact h
  | cons m rest ih =>
      have hmove : (r.move s m).1.bare = (r'.move s m).1.bare := by
        rw [bare_move r, bare_move r', h]
      exact ih hmove

/-- Moves that only read can be left out. -/
theorem bare_moveAll_filter (r : IndexedReport) (moves : List Move) :
    (r.moveAll s (moves.filter fun m => !m.isReading)).1.bare = (r.moveAll s moves).1.bare := by
  induction moves generalizing r with
  | nil => rfl
  | cons m rest ih =>
      cases hm : m.isReading with
      | true =>
          rw [List.filter_cons_of_neg (by simp [hm]), ih]
          exact bare_moveAll_congr (bare_move_of_isReading hm r).symm rest
      | false =>
          rw [List.filter_cons_of_pos (by simp [hm])]
          exact ih (r.move s m).1

/-- Operations come to the same report and the same answers as without kept groups. -/
theorem moveAll_perform_eq (h : r.HasTrueIndex) (operations : List Report.Operation) :
    (r.moveAll s (operations.map .perform)).1.plain = (r.plain.performAll s operations).1 ∧
      (r.moveAll s (operations.map .perform)).2 = (r.plain.performAll s operations).2 := by
  induction operations generalizing r with
  | nil => exact ⟨rfl, rfl⟩
  | cons operation rest ih =>
      obtain ⟨hplain, hanswer⟩ := h.perform_eq (s := s) operation
      obtain ⟨hrest, hanswers⟩ := ih (h.move (s := s) (.perform operation))
      replace hplain : (r.move s (.perform operation)).1.plain = (r.plain.perform s operation).1 :=
        hplain
      rw [hplain] at hrest hanswers
      exact ⟨hrest, congrArg₂ List.cons hanswer hanswers⟩

/-! ## What is read -/

/-- What is read of a report is told by its findings. -/
structure Shows (s : Surroundings) (r : IndexedReport) : Prop where
  /-- A field is found exactly if it has findings, with the kinds of them all in order. -/
  get_text : ∀ field : String, (r.perform s (.get (.text field))).2 =
    pure (.kinds (if ∃ finding ∈ r.findings, finding.field = field
      then some ((r.findings.filter (·.field = field)).map Finding.kind) else none))
  /-- What is no text is the name of no field. -/
  get_other : ∀ key : Value, key.canBeKey = true → (∀ field, key ≠ .text field) →
    (r.perform s (.get key)).2 = pure (.kinds none)
  /-- The failing fields come in the order of their first findings, and each comes once. -/
  grouped_eq : r.grouped.1 = Report.listing r.findings
  nodup_grouped : (r.grouped.1.map Prod.fst).Nodup
  asMapping : (r.perform s .asMapping).2 = pure (.groups (Report.listing r.findings))
  visited : (r.perform s (.each none)).2 = pure (.visited (Report.listing r.findings))
  each_eq : ∀ (α : Type) (visit : String → List String → Run α),
    r.each visit = Report.visitAll visit (Report.listing r.findings)
  size : (r.perform s .size).2 = pure (.size r.findings.length r.isSealed)
  length_eq : r.length = r.findings.length
  hasFindings_iff : r.hasFindings = true ↔ r.findings ≠ []
  /-- Every finding is in one group. -/
  sum_sizes : (r.grouped.1.map fun group => group.2.length).sum = r.findings.length

theorem HasTrueIndex.grouped_eq_listing (h : r.HasTrueIndex) :
    r.grouped.1 = Report.listing r.findings :=
  h.grouped_eq.trans (Report.groupsOf_eq_listing r.findings)

theorem HasTrueIndex.lookup_grouped (h : r.HasTrueIndex) (field : String) :
    r.grouped.1.lookup field = if ∃ finding ∈ r.findings, finding.field = field
      then some ((r.findings.filter (·.field = field)).map Finding.kind) else none := by
  have hnone : Report.kindsIn r.findings field = [] ↔
      ¬ ∃ finding ∈ r.findings, finding.field = field := by
    rw [Report.kindsIn_eq_nil_iff]
    simp
  rw [h.grouped_eq, Report.lookup_groupsOf]
  simp only [hnone, ite_not]
  rfl

theorem HasTrueIndex.shows (h : r.HasTrueIndex) (s : Surroundings) : r.Shows s where
  get_text field := by
    simp [perform, get?, Mapping.asKey, Value.canBeKey, Except.map, h.lookup_grouped, Run.ofResult]
  get_other key hkey hother := by
    cases key <;> simp_all [perform, get?, Mapping.asKey, Except.map, Run.ofResult]
  grouped_eq := h.grouped_eq_listing
  nodup_grouped := by
    rw [h.grouped_eq_listing]
    simpa [Report.listing, Function.comp_def] using Report.nodup_failingFields r.findings
  asMapping := by simp [perform, h.grouped_eq_listing]
  visited := by
    simp [perform, IndexedReport.each, h.grouped_eq_listing, Report.visitAll_visitWith_none,
      Run.andThen]
  each_eq α visit := by rw [IndexedReport.each, h.grouped_eq_listing]
  size := rfl
  length_eq := rfl
  hasFindings_iff := by simp [hasFindings]
  sum_sizes := by rw [h.grouped_eq, Report.sum_length_groupsOf]

/-- After any moves, whether they failed or not, all that is read is told by the findings of the
report. The moves among them that only read could have been left out, without another answer to any
later move. Operations come to the same findings and answers as those of a report that keeps no
groups. -/
theorem shows_after_moves (s : Surroundings) (report : Report) (moves : List Move) :
    let r := ((ofReport report).moveAll s moves).1
    let unread := ((ofReport report).moveAll s (moves.filter fun m => !m.isReading)).1
    r.Shows s ∧ r.plain = unread.plain ∧ (∀ m, (r.move s m).2 = (unread.move s m).2) ∧
      ∀ operations : List Report.Operation,
        ((ofReport report).moveAll s (operations.map .perform)).1.plain =
            (report.performAll s operations).1 ∧
          ((ofReport report).moveAll s (operations.map .perform)).2 =
            (report.performAll s operations).2 := by
  intro r unread
  have htrue : ∀ moves, ((ofReport report).moveAll s moves).1.HasTrueIndex :=
    (hasTrueIndex_ofReport report).moveAll
  have hbare : r.bare = unread.bare := (bare_moveAll_filter (ofReport report) moves).symm
  have hanswers : ∀ m, (r.move s m).2 = (unread.move s m).2 := by
    intro m
    rw [(htrue moves).answer_move, (htrue _).answer_move, hbare]
  exact ⟨(htrue moves).shows s, plain_eq_of_bare_eq hbare, hanswers,
    moveAll_perform_eq (hasTrueIndex_ofReport report)⟩

/-- Groups made before a finding was added do not hide it, nor are they shown once it is gone. -/
example : ((ofReport Report.empty).moveAll .silent
    [.perform .asMapping, .perform (.add (.text "age") (.text "number")), .perform .asMapping,
      .putBack 0, .perform .asMapping]).2 =
    [pure (.groups []), pure .nothing, pure (.groups [("age", ["number"])]), pure .nothing,
      pure (.groups [])] := rfl

end IndexedReport

end FieldRules
