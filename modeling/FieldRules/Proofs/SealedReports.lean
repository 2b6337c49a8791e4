import FieldRules.Proofs.KeptGroups

/-!
# Reports that are written once

A report is changed in three ways: a finding is added, all findings are replaced, or an earlier list
of them is put back. Each of these is guarded on its own, and not at the same point: an addition
looks at the seal before it looks at the values, a replacement makes the new findings first. A
finding itself cannot be changed at all.

Nevertheless the guards come to one rule. A move that fails has no effect, be it a change that is
refused or a look-up or a visit that fails. Once a report is sealed nothing has an effect any more.
And an addition to an open report adds one finding at the end.

The groups that are kept may be made anew by a move that fails, which does not show: they are those
of the findings before and after.

## Main definitions

* `Value.Spells`, `Value.IsName` — texts, and bytes that encode one
* `Report.Refuses`, `IndexedReport.Refuses` — the moves that fail, each for its reason
* `IndexedReport.LooksLike` — reports with the same findings, groups and seal

## Main statements

* `IndexedReport.HasTrueIndex.hasFailed_move_iff` — which moves fail
* `IndexedReport.bare_move_of_hasFailed` — a move that fails changes no more than the groups kept
* `IndexedReport.bare_moveAll_of_isSealed` — nothing changes a sealed report
* `IndexedReport.written_once` — the rule, at every point of every run
-/

namespace FieldRules

/-! ## Names -/

/-- A value is a text, or bytes that encode it. -/
inductive Value.Spells : Value → String → Prop
  | text (x : String) : Spells (.text x) x
  | bytes {bs : List UInt8} {x : String} (encoded : String.fromUTF8? ⟨bs.toArray⟩ = some x) :
    Spells (.bytes bs) x

/-- A value can be the name of a field or of a kind. -/
def Value.IsName (v : Value) : Prop :=
  ∃ x, v.Spells x

theorem Value.asText_eq_ok_iff (path : List PathStep) {v : Value} {x : String} :
    v.asText path = .ok x ↔ v.Spells x := by
  constructor
  · intro h
    cases v with
    | text y =>
        obtain rfl := Except.ok.inj h
        exact .text y
    | bytes bs =>
        cases hencoded : String.fromUTF8? ⟨bs.toArray⟩ with
        | none => simp [asText, hencoded] at h
        | some y =>
            obtain rfl : y = x := by simpa [asText, hencoded] using h
            exact .bytes hencoded
    | _ => cases h
  · rintro (_ | hencoded)
    · rfl
    · simp [asText, hencoded]

/-- A finding is made of two names. -/
theorem Finding.ofValues_eq_ok_iff (place : List PathStep) {field kind : Value}
    {finding : Finding} :
    Finding.ofValues place field kind = .ok finding ↔
      field.Spells finding.field ∧ kind.Spells finding.kind := by
  obtain ⟨x, y⟩ := finding
  rw [← Value.asText_eq_ok_iff (place ++ [.field "attribute"]),
    ← Value.asText_eq_ok_iff (place ++ [.field "rule_kind"])]
  unfold Finding.ofValues
  split <;> simp [*]

theorem Finding.exists_ofValues_iff (place : List PathStep) {field kind : Value} :
    (∃ finding, Finding.ofValues place field kind = .ok finding) ↔ field.IsName ∧ kind.IsName := by
  simp only [Finding.ofValues_eq_ok_iff, Value.IsName]
  constructor
  · rintro ⟨finding, hfield, hkind⟩
    exact ⟨⟨_, hfield⟩, ⟨_, hkind⟩⟩
  · rintro ⟨⟨x, hfield⟩, ⟨y, hkind⟩⟩
    exact ⟨⟨x, y⟩, hfield, hkind⟩

/-! ## Failures -/

/-- A computation ends with a failure. -/
def Run.HasFailed {α : Type} (r : Run α) : Prop :=
  ∃ failure, r.result = .error failure

namespace Report

variable {s : Surroundings} {report : Report}

/-- New findings are made of pairs of names. -/
theorem exists_newFindings_iff {entries : List (Value × Value)} :
    (∃ findings, newFindings entries = .ok findings) ↔
      ∀ entry ∈ entries, entry.1.IsName ∧ entry.2.IsName := by
  induction entries with
  | nil => simp [newFindings]
  | cons entry rest ih =>
      obtain ⟨field, kind⟩ := entry
      rw [List.forall_mem_cons, ← ih, ← Finding.exists_ofValues_iff []]
      cases hfinding : Finding.ofValues [] field kind with
      | error faults => simp [newFindings, hfinding]
      | ok finding =>
          cases hrest : newFindings rest <;> simp [newFindings, hfinding, hrest, Except.map]

/-- There is an entry at the indices from the first finding to the last, counted from either end. -/
theorem exists_entry_iff {index : Int} :
    (∃ finding, report.entry index = .ok finding) ↔
      -(report.findings.length : Int) ≤ index ∧ index < report.findings.length := by
  -- An index is first taken to a position from the start.
  obtain ⟨position, hposition⟩ : ∃ position : Int,
    position = if index < 0 then index + report.length else index := ⟨_, rfl⟩
  have hentry : (∃ finding, report.entry index = .ok finding) ↔
      0 ≤ position ∧ position < report.findings.length := by
    simp only [entry, ← hposition]
    by_cases hnegative : 0 ≤ position
    · rw [if_pos hnegative]
      by_cases hlength : position.toNat < report.findings.length
      · have hinside : position < report.findings.length := by omega
        simp [hnegative, hinside]
      · have houtside : ¬ position < report.findings.length := by omega
        simp [List.getElem?_eq_none (Nat.le_of_not_lt hlength), houtside]
    · simp [hnegative]
  rw [hentry, hposition]
  simp only [Report.length]
  split <;> omega

/-- A visit fails exactly if the visitor fails at one of the fields. -/
theorem hasFailed_visitAll_iff (f : FunctionId) (groups : List (String × List String)) :
    (visitAll (visitWith s (some f)) groups).HasFailed ↔
      ∃ group ∈ groups, ∃ failure,
        s.answer f (visitArguments group.1 group.2) = .error failure := by
  induction groups with
  | nil => simp [visitAll, Run.HasFailed]
  | cons group rest ih =>
      obtain ⟨field, kinds⟩ := group
      simp only [List.mem_cons, exists_eq_or_imp, ← ih]
      cases hanswer : s.answer f (visitArguments field kinds) <;>
        cases hrest : (visitAll (visitWith s (some f)) rest).result <;>
          simp [visitAll, visitWith, Run.call, Run.HasFailed, Run.result_bind, hanswer, hrest,
            Except.bind]

/-- The operations that fail. -/
inductive Refuses (s : Surroundings) (report : Report) : Operation → Prop
  | addToSealed {field kind : Value} (isSealed : report.isSealed = true) :
    Refuses s report (.add field kind)
  | addNoName {field kind : Value} (noName : ¬ (field.IsName ∧ kind.IsName)) :
    Refuses s report (.add field kind)
  | replaceSealed {entries : List (Value × Value)} (isSealed : report.isSealed = true) :
    Refuses s report (.replace entries)
  | replaceByNoName {entries : List (Value × Value)} {entry : Value × Value} (mem : entry ∈ entries)
    (noName : ¬ (entry.1.IsName ∧ entry.2.IsName)) : Refuses s report (.replace entries)
  /-- No finding can be changed, sealed or not. -/
  | changeEntry {index : Int} {name : String} : Refuses s report (.changeEntry index name)
  | entry {index : Int}
    (outside : index < -(report.findings.length : Int) ∨ report.findings.length ≤ index) :
    Refuses s report (.entry index)
  | get {key : Value} (noKey : key.canBeKey = false) : Refuses s report (.get key)
  /-- The visitor fails at one of the failing fields. -/
  | each {f : FunctionId} {field : String} {failure : Failure}
    (failing : field ∈ failingFields report.findings)
    (fails : s.answer f (visitArguments field (kindsIn report.findings field)) = .error failure) :
    Refuses s report (.each (some f))

theorem hasFailed_change_iff {result : Except Failure Report} :
    (report.change result).2.HasFailed ↔ ¬ ∃ changed, result = .ok changed := by
  cases result <;> simp [change, Run.HasFailed, Run.fail]

theorem hasFailed_add_iff {field kind : Value} :
    (report.perform s (.add field kind)).2.HasFailed ↔ report.Refuses s (.add field kind) := by
  have hadd : (∃ changed, report.add field kind = .ok changed) ↔
      report.isSealed = false ∧ field.IsName ∧ kind.IsName := by
    rw [← Finding.exists_ofValues_iff []]
    constructor
    · rintro ⟨changed, h⟩
      obtain ⟨hopen, finding, hfinding, -⟩ := add_eq_ok_iff.mp h
      exact ⟨hopen, finding, hfinding⟩
    · rintro ⟨hopen, finding, hfinding⟩
      exact ⟨_, add_eq_ok_iff.mpr ⟨hopen, finding, hfinding, rfl⟩⟩
  rw [perform, hasFailed_change_iff, hadd, not_and_or, Bool.not_eq_false]
  constructor
  · rintro (hsealed | hname)
    · exact .addToSealed hsealed
    · exact .addNoName hname
  · intro hrefuses
    cases hrefuses with
    | addToSealed hsealed => exact .inl hsealed
    | addNoName hname => exact .inr hname

theorem hasFailed_replace_iff {entries : List (Value × Value)} :
    (report.perform s (.replace entries)).2.HasFailed ↔ report.Refuses s (.replace entries) := by
  have hreplace : (∃ changed, report.replace entries = .ok changed) ↔
      report.isSealed = false ∧ ∀ entry ∈ entries, entry.1.IsName ∧ entry.2.IsName := by
    rw [← exists_newFindings_iff]
    constructor
    · rintro ⟨changed, h⟩
      obtain ⟨hopen, findings, hfindings, -⟩ := replace_eq_ok_iff.mp h
      exact ⟨hopen, findings, hfindings⟩
    · rintro ⟨hopen, findings, hfindings⟩
      exact ⟨_, replace_eq_ok_iff.mpr ⟨hopen, findings, hfindings, rfl⟩⟩
  rw [perform, hasFailed_change_iff, hreplace, not_and_or, Bool.not_eq_false]
  constructor
  · rintro (hsealed | hnames)
    · exact .replaceSealed hsealed
    · obtain ⟨entry, hentry⟩ := not_forall.mp hnames
      obtain ⟨hmem, hname⟩ := Classical.not_imp.mp hentry
      exact .replaceByNoName hmem hname
  · intro hrefuses
    cases hrefuses with
    | replaceSealed hsealed => exact .inl hsealed
    | replaceByNoName hmem hname => exact .inr fun hnames => hname (hnames _ hmem)

/-- A failing field is visited with the kinds that it failed, and no other one. -/
theorem exists_mem_groups_iff {P : String → List String → Prop} :
    (∃ group ∈ report.groups, P group.1 group.2) ↔
      ∃ field ∈ failingFields report.findings, P field (kindsIn report.findings field) := by
  rw [groups, groupsOf_eq_listing, listing]
  simp

/-- An operation fails for one of these reasons, and for no other. -/
theorem hasFailed_perform_iff (s : Surroundings) (report : Report) (operation : Operation) :
    (report.perform s operation).2.HasFailed ↔ report.Refuses s operation := by
  cases operation with
  | add field kind => exact hasFailed_add_iff
  | replace entries => exact hasFailed_replace_iff
  | changeEntry index name =>
      refine iff_of_true (hasFailed_change_iff.mpr ?_) .changeEntry
      rintro ⟨changed, h⟩
      exact changeEntry_ne_ok report changed index name h
  | entry index =>
      have hentry : (report.perform s (.entry index)).2.HasFailed ↔
          ¬ ∃ finding, report.entry index = .ok finding := by
        cases h : report.entry index <;> simp [perform, h, Run.HasFailed, Except.map]
      rw [hentry, exists_entry_iff]
      constructor
      · intro houtside
        exact .entry (by omega)
      · intro hrefuses
        cases hrefuses with
        | entry houtside => omega
  | get key =>
      have hget : (report.perform s (.get key)).2.HasFailed ↔ key.canBeKey = false := by
        cases hkey : key.canBeKey <;>
          simp [perform, get?, Mapping.asKey, hkey, Run.HasFailed, Except.map]
      rw [hget]
      exact ⟨.get, fun h => by cases h; assumption⟩
  | each visitor =>
      have hvisit : (report.perform s (.each visitor)).2.HasFailed ↔
          (visitAll (visitWith s visitor) report.groups).HasFailed := by
        cases h : (visitAll (visitWith s visitor) report.groups).result <;>
          simp [perform, each, Run.andThen, Run.HasFailed, h]
      rw [hvisit]
      cases visitor with
      | none =>
          rw [visitAll_visitWith_none]
          refine iff_of_false (by simp [Run.HasFailed]) fun hrefuses => ?_
          cases hrefuses
      | some f =>
          rw [hasFailed_visitAll_iff,
            exists_mem_groups_iff (P := fun field kinds =>
              ∃ failure, s.answer f (visitArguments field kinds) = .error failure)]
          constructor
          · rintro ⟨field, hfield, failure, hfailure⟩
            exact .each hfield hfailure
          · intro hrefuses
            cases hrefuses with
            | each hfield hfailure => exact ⟨_, hfield, _, hfailure⟩
  | sealUp | size | view | asMapping =>
      refine iff_of_false (by simp [perform, Run.HasFailed]) fun hrefuses => ?_
      cases hrefuses

end Report

/-! ## Moves that fail -/

namespace IndexedReport

variable {s : Surroundings} {r r' : IndexedReport}

/-- The moves that fail. -/
inductive Refuses (s : Surroundings) (r : IndexedReport) : Move → Prop
  | perform {operation : Report.Operation} (refuses : r.plain.Refuses s operation) :
    Refuses s r (.perform operation)
  | putBackToSealed {number : Nat} (isSealed : r.isSealed = true) : Refuses s r (.putBack number)
  /-- There never was such a list. -/
  | putBackUnknown {number : Nat} (unknown : r.lists.length ≤ number) :
    Refuses s r (.putBack number)

theorem hasFailed_putBack_iff {number : Nat} :
    (r.move s (.putBack number)).2.HasFailed ↔ r.Refuses s (.putBack number) := by
  have hmove : (r.move s (.putBack number)).2.HasFailed ↔
      r.isSealed = true ∨ r.lists.length ≤ number := by
    by_cases hnumber : number < r.lists.length
    · have hknown : ¬ r.lists.length ≤ number := by omega
      cases hsealed : r.isSealed <;>
        simp [move, putBack, hnumber, hsealed, hknown, Run.HasFailed, Run.fail]
    · have hunknown : r.lists.length ≤ number := by omega
      simp [move, putBack, hnumber, hunknown, Run.HasFailed, Run.fail]
  rw [hmove]
  constructor
  · rintro (hsealed | hunknown)
    · exact .putBackToSealed hsealed
    · exact .putBackUnknown hunknown
  · intro hrefuses
    cases hrefuses with
    | putBackToSealed hsealed => exact .inl hsealed
    | putBackUnknown hunknown => exact .inr hunknown

/-- A move fails for one of these reasons, and for no other. -/
theorem HasTrueIndex.hasFailed_move_iff (h : r.HasTrueIndex) (s : Surroundings) (m : Move) :
    (r.move s m).2.HasFailed ↔ r.Refuses s m := by
  cases m with
  | perform operation =>
      have hanswer : (r.move s (.perform operation)).2 = (r.plain.perform s operation).2 :=
        (h.perform_eq operation).2
      rw [hanswer, Report.hasFailed_perform_iff]
      exact ⟨.perform, fun hrefuses => by cases hrefuses; assumption⟩
  | putBack number => exact hasFailed_putBack_iff

theorem change_of_hasFailed {result : Except Failure Report}
    (h : (r.change result).2.HasFailed) : (r.change result).1 = r := by
  cases result with
  | error failure => rfl
  | ok changed =>
      obtain ⟨failure, hfailure⟩ := h
      cases hfailure

/-- A move that fails changes nothing but the groups that are kept. -/
theorem bare_move_of_hasFailed {m : Move} (h : (r.move s m).2.HasFailed) :
    (r.move s m).1.bare = r.bare := by
  cases m with
  | perform operation =>
      replace h : (r.perform s operation).2.HasFailed := h
      show (r.perform s operation).1.bare = r.bare
      rcases effect s operation with ⟨result, hperform, -⟩ | ⟨hperform, -⟩ | hperform
      · rw [hperform] at h ⊢
        rw [change_of_hasFailed h]
      · -- A sealing never fails.
        rw [hperform] at h
        obtain ⟨failure, hfailure⟩ := h
        cases hfailure
      · exact bare_perform_of_reads r hperform
  | putBack number =>
      obtain ⟨failure, hfailure⟩ := h
      simp only [move] at hfailure ⊢
      cases hput : r.putBack number with
      | error other => rfl
      | ok changed =>
          rw [hput] at hfailure
          cases hfailure

/-! ## Sealed reports -/

/-- Nothing that is done to a sealed report changes more than the groups that are kept. -/
theorem bare_move_of_isSealed (h : r.HasTrueIndex) (hsealed : r.isSealed = true) (m : Move) :
    (r.move s m).1.bare = r.bare := by
  have hrefused : r.Refuses s m → (r.move s m).1.bare = r.bare :=
    fun hrefuses => bare_move_of_hasFailed ((h.hasFailed_move_iff s m).mpr hrefuses)
  cases m with
  | putBack number => exact hrefused (.putBackToSealed hsealed)
  | perform operation =>
      cases operation with
      | add field kind => exact hrefused (.perform (.addToSealed hsealed))
      | replace entries => exact hrefused (.perform (.replaceSealed hsealed))
      | changeEntry index name => exact hrefused (.perform .changeEntry)
      | sealUp =>
          have hsame : ({ r.bare with isSealed := true } : IndexedReport) = r.bare := by
            rw [← hsealed]
            rfl
          exact (bare_sealUp r).trans hsame
      | get | size | view | asMapping | each | entry => exact bare_move_of_isReading rfl r

theorem bare_moveAll_of_isSealed (h : r.HasTrueIndex) (hsealed : r.isSealed = true)
    (moves : List Move) : (r.moveAll s moves).1.bare = r.bare := by
  induction moves generalizing r with
  | nil => rfl
  | cons m rest ih =>
      have hmove : (r.move s m).1.bare = r.bare := bare_move_of_isSealed h hsealed m
      have hstill : (r.move s m).1.isSealed = true := by
        rw [← hsealed]
        exact congrArg Report.isSealed (plain_eq_of_bare_eq hmove)
      exact (ih (h.move m) hstill).trans hmove

/-! ## Reports that look alike -/

/-- Two reports cannot be told apart, now or by any moves. -/
structure LooksLike (s : Surroundings) (r r' : IndexedReport) : Prop where
  findings_eq : r.findings = r'.findings
  grouped_eq : r.grouped.1 = r'.grouped.1
  isSealed_eq : r.isSealed = r'.isSealed
  answers_eq : ∀ moves : List Move, (r.moveAll s moves).2 = (r'.moveAll s moves).2

theorem HasTrueIndex.answers_congr (h : r.HasTrueIndex) (h' : r'.HasTrueIndex)
    (hbare : r.bare = r'.bare) (moves : List Move) :
    (r.moveAll s moves).2 = (r'.moveAll s moves).2 := by
  induction moves generalizing r r' with
  | nil => rfl
  | cons m rest ih =>
      have hanswer : (r.move s m).2 = (r'.move s m).2 := by
        rw [h.answer_move, h'.answer_move, hbare]
      have hmove : (r.move s m).1.bare = (r'.move s m).1.bare := by
        rw [bare_move r, bare_move r', hbare]
      exact congrArg₂ List.cons hanswer (ih (h.move m) (h'.move m) hmove)

/-- The groups that are kept do not show. -/
theorem HasTrueIndex.looksLike (h : r.HasTrueIndex) (h' : r'.HasTrueIndex)
    (hbare : r.bare = r'.bare) (s : Surroundings) : LooksLike s r r' := by
  have hplain : r.plain = r'.plain := plain_eq_of_bare_eq hbare
  have hfindings : r.findings = r'.findings := congrArg Report.findings hplain
  have hgroups : r.grouped.1 = r'.grouped.1 := by
    rw [h.grouped_eq, h'.grouped_eq, hfindings]
  exact ⟨hfindings, hgroups, congrArg Report.isSealed hplain, h.answers_congr h' hbare⟩

/-- A sealed report looks as it is for ever. -/
theorem HasTrueIndex.looksLike_moveAll_of_isSealed (h : r.HasTrueIndex)
    (hsealed : r.isSealed = true) (moves : List Move) : LooksLike s (r.moveAll s moves).1 r :=
  (h.moveAll moves).looksLike h (bare_moveAll_of_isSealed h hsealed moves) s

/-! ## The rule -/

/-- An addition that does not fail adds one finding at the end of an open report. -/
theorem HasTrueIndex.exists_finding_of_add (h : r.HasTrueIndex) {field kind : Value}
    (hadd : ¬ (r.move s (.perform (.add field kind))).2.HasFailed) :
    ∃ finding : Finding, field.Spells finding.field ∧ kind.Spells finding.kind ∧
      r.isSealed = false ∧
      (r.move s (.perform (.add field kind))).1.plain = ⟨r.findings ++ [finding], false⟩ := by
  obtain ⟨hplain, hanswer⟩ := h.perform_eq (s := s) (.add field kind)
  replace hplain : (r.move s (.perform (.add field kind))).1.plain =
      (r.plain.change (r.plain.add field kind)).1 := hplain
  replace hanswer : (r.move s (.perform (.add field kind))).2 =
      (r.plain.change (r.plain.add field kind)).2 := hanswer
  rw [hanswer, Report.hasFailed_change_iff, not_not] at hadd
  obtain ⟨changed, hchanged⟩ := hadd
  obtain ⟨hopen, finding, hfinding, rfl⟩ := Report.add_eq_ok_iff.mp hchanged
  obtain ⟨hfield, hkind⟩ := (Finding.ofValues_eq_ok_iff []).mp hfinding
  refine ⟨finding, hfield, hkind, hopen, ?_⟩
  rw [hplain, hchanged]
  rfl

/-- After any moves: the moves that fail are those that are refused for a reason, and they have no
effect that shows. A sealing keeps the findings and their groups, and then nothing has an effect
that shows. An addition that does not fail adds one finding at the end, and the report is open
before and after it. -/
theorem written_once (s : Surroundings) (report : Report) (moves : List Move) :
    let r := ((ofReport report).moveAll s moves).1
    let sealed := (r.move s (.perform .sealUp)).1
    (∀ m, (r.move s m).2.HasFailed ↔ r.Refuses s m) ∧
    (∀ m, (r.move s m).2.HasFailed → LooksLike s (r.move s m).1 r) ∧
    (sealed.findings = r.findings ∧ sealed.grouped.1 = r.grouped.1 ∧ sealed.isSealed = true ∧
      ∀ later, LooksLike s (sealed.moveAll s later).1 sealed) ∧
    (r.isSealed = true → ∀ later, LooksLike s (r.moveAll s later).1 r) ∧
    (∀ field kind, ¬ (r.move s (.perform (.add field kind))).2.HasFailed →
      ∃ finding : Finding, field.Spells finding.field ∧ kind.Spells finding.kind ∧
        r.isSealed = false ∧
        (r.move s (.perform (.add field kind))).1.plain = ⟨r.findings ++ [finding], false⟩) := by
  intro r sealed
  have htrue : r.HasTrueIndex := (hasTrueIndex_ofReport report).moveAll moves
  refine ⟨htrue.hasFailed_move_iff s, ?_, ?_, htrue.looksLike_moveAll_of_isSealed, ?_⟩
  · intro m hfailed
    exact (htrue.move m).looksLike htrue (bare_move_of_hasFailed hfailed) s
  · have hplain : sealed.plain = r.plain.sealUp := plain_sealUp r
    have hfindings : sealed.findings = r.findings := congrArg Report.findings hplain
    have hsealed : sealed.isSealed = true := congrArg Report.isSealed hplain
    have htrue' : sealed.HasTrueIndex := htrue.move _
    refine ⟨hfindings, ?_, hsealed, htrue'.looksLike_moveAll_of_isSealed hsealed⟩
    rw [htrue'.grouped_eq, htrue.grouped_eq, hfindings]
  · intro field kind hadd
    exact htrue.exists_finding_of_add hadd

/-- A report with one finding, whose kind was given by bytes, is sealed. Another finding is refused
although it is none, and what the report shows is the one finding whatever is done. -/
theorem written_once_age :
    let r := ((ofReport .empty).moveAll .silent
      [.perform (.add (.text "age") (.bytes [104, 101, 120])), .perform .sealUp]).1
    (r.move .silent (.perform (.add (.text "age") (.int 5)))).2.HasFailed ∧
    ∀ later, (r.moveAll .silent later).1.findings = [⟨"age", "hex"⟩] := by
  obtain ⟨hfailed, -, -, hstays, -⟩ := written_once .silent .empty
    [.perform (.add (.text "age") (.bytes [104, 101, 120])), .perform .sealUp]
  refine ⟨(hfailed _).mpr (.perform (.addToSealed rfl)), fun later => ?_⟩
  rw [(hstays rfl later).findings_eq]
  rfl

end IndexedReport

end FieldRules
