import FieldRules.Proofs.Completion

/-!
# Checking a part of the fields

What a rule says about a field depends on the value of the field, and of no other field unless the
rule compares with one. So the rules of a field come to the same answers wherever the field, and those
that its rules compare it with, have the same values. A part of a mapping that leaves the others out
is such a place, and where a rule compares with a field that was left out it still has an answer.

## Main definitions

* `Rule.compared?`, `Schema.Compares` — the field that a rule compares with
* `Mapping.IsPart` — mappings that agree with another one at all their keys

## Main statements

* `Library.passes_congr`, `Entry.trials_congr` — what the answers depend on
* `Schema.kindsIn_noted` — the findings for a field are those of its own entries
* `Schema.trials_restrict` — the trials of a part of a schema are some of those of the whole
* `Form.exists_fieldData` — the values of a field and its related fields are a part of all values
* `Form.exists_validate_of_isPart`, `Form.exists_validatePart` — a part of the fields has a report if
  all of them have one
-/

namespace FieldRules

/-! ## What a rule depends on -/

/-- The field that a rule compares with. -/
def Rule.compared? : Rule → Option String
  | .options kind (.text x) => if kind = Kind.sameAs.name then some x else none
  | _ => none

/-- Some rule of a field compares it with another field, or with itself. -/
def Schema.Compares (schema : Schema) (field other : String) : Prop :=
  ∃ entry ∈ schema.entries, entry.field = field ∧
    ∃ rule ∈ entry.ruleList, rule.compared? = some other

theorem Rule.compared?_eq {rule : Rule} {x : String} (hkind : rule.kind = Kind.sameAs.name)
    (hgiven : rule.given = .text x) : rule.compared? = some x := by
  cases rule with
  | options kind value =>
      obtain rfl : value = .text x := hgiven
      replace hkind : kind = Kind.sameAs.name := hkind
      simp [compared?, hkind]
  | _ => simp [given] at hgiven

namespace Library

variable {s : Surroundings} {items part : Mapping}

/-- A rule comes to the same answer where the field that it compares with has the same value. -/
theorem passes_congr {rule : Rule} (hknows : standard.knows rule = true) (hrule : ¬ rule.IsInline)
    (h : ∀ x, rule.compared? = some x →
      Mapping.getOrNull part (.text x) = Mapping.getOrNull items (.text x))
    (s : Surroundings) (value : Value) :
    standard.passes s (.mapping part) value rule =
      standard.passes s (.mapping items) value rule := by
  obtain ⟨kind, hkind, hpasses⟩ := exists_passes_standard_eq hknows hrule
  have hjudge : kind.judge s value rule.given (.mapping part) =
      kind.judge s value rule.given (.mapping items) := by
    refine kind.judge_congr fun hsame => ?_
    subst hsame
    rcases Kind.namedField_eq rule.given part with ⟨x, hx, hfield⟩ | ⟨-, hfield⟩
    · rw [hfield, h x (Rule.compared?_eq hkind hx), hx, Kind.namedField_text]
    · rw [hfield, hfield]
  simp only [hpasses, hjudge]

end Library

/-- The rules of a field come to the same answers where the field, and those that they compare it
with, have the same values. -/
theorem Entry.trials_congr {s : Surroundings} {items part : Mapping} {schema : Schema}
    (hcompile : Library.standard.compile (.compiled schema) = .ok schema)
    (hplain : schema.HasNoFunctions) {entry : Entry} (hentry : entry ∈ schema.entries)
    (hfield : Mapping.getOrNull part (.text entry.field) =
      Mapping.getOrNull items (.text entry.field))
    (hcompared : ∀ rule ∈ entry.ruleList, ∀ x, rule.compared? = some x →
      Mapping.getOrNull part (.text x) = Mapping.getOrNull items (.text x)) :
    entry.trials s .standard part = entry.trials s .standard items := by
  obtain ⟨-, hknows⟩ := Library.compile_compiled_eq_ok_iff.mp hcompile
  obtain ⟨⟨field, rules, rfl⟩, hinline⟩ := hplain entry hentry
  simp only [Entry.field] at hfield
  simp only [Entry.trials, Entry.field, hfield]
  refine List.map_congr_left fun rule hrule => ?_
  rw [Library.passes_congr (hknows _ hentry rule hrule) (hinline rule hrule)
    (hcompared rule hrule)]

/-! ## Parts of mappings -/

namespace Mapping

/-- A mapping has the values of another one at all its keys that are texts. -/
def IsPart (part items : Mapping) : Prop :=
  ∀ x, .text x ∈ keys part → getOrNull part (.text x) = getOrNull items (.text x)

variable {part items : Mapping}

theorem IsPart.nil (items : Mapping) : IsPart [] items := by
  simp [IsPart]

/-- A part gains another value of the whole. -/
theorem IsPart.put (h : IsPart part items) (key : Value) :
    IsPart (Mapping.put part key (getOrNull items key)) items := by
  intro x hx
  rw [getOrNull, get?_put_text]
  by_cases hkey : (Value.text x).same key = true
  · obtain rfl := Value.same_text_left_iff.mp hkey
    simp
  · have hmem : .text x ∈ keys part := by
      rw [keys_put] at hx
      rcases Members.mem_or_eq_of_mem_add hx with hx | rfl
      · exact hx
      · simp at hkey
    rw [if_neg hkey]
    exact h x hmem

/-- Where a part does not have the value of the whole, it has none. -/
theorem IsPart.getOrNull_eq_or (h : IsPart part items) (x : String) :
    getOrNull part (.text x) = getOrNull items (.text x) ∨ getOrNull part (.text x) = .null := by
  by_cases hx : .text x ∈ keys part
  · exact .inl (h x hx)
  · refine .inr ?_
    rw [getOrNull, get?_text_eq_none_iff.mpr hx]
    rfl

/-- A part has the value of the whole at each of its keys, and wherever the whole has none. -/
theorem IsPart.getOrNull_eq (h : IsPart part items) {x : String}
    (hx : .text x ∈ keys part ∨ getOrNull items (.text x) = .null) :
    getOrNull part (.text x) = getOrNull items (.text x) := by
  rcases hx with hkey | hnull
  · exact h x hkey
  · rcases h.getOrNull_eq_or x with hsame | hmissing
    · exact hsame
    · rw [hmissing, hnull]

end Mapping

/-- A check that fails on a part fails on the whole. -/
theorem Rule.FailsWith.of_isPart {rule : Rule} {stack : Stack} {value : Value} {part items : Mapping}
    {failure : Failure} (hpart : part.IsPart items) (h : rule.FailsWith stack value part failure) :
    rule.FailsWith stack value items failure := by
  obtain ⟨kind, hkind, hfails⟩ := h
  refine ⟨kind, hkind, ?_⟩
  cases hfails with
  | date text large => exact .date text large
  | age birth late => exact .age birth late
  | equals ends => exact .equals ends
  | oneOf several ends => exact .oneOf several ends
  | @sameAs x named ends =>
      rcases hpart.getOrNull_eq_or x with hsame | hnull
      · exact .sameAs named (hsame ▸ ends)
      · rw [hnull] at ends
        exact absurd ends (Stack.not_endsIn_of_depth_eq_zero (.inr rfl))

/-! ## Parts of schemas -/

/-- Trials left out by their findings are left out of what is noted. -/
theorem Trial.noted_filter (p : Finding → Bool) (trials : List Trial) :
    noted (trials.filter fun t => p t.finding) = (noted trials).filter p := by
  simp only [noted, List.filter_map, List.filter_filter]
  congr 1
  refine List.filter_congr fun t _ => ?_
  exact Bool.and_comm _ _

namespace Schema

variable {s : Surroundings} {lib : Library} {items : Mapping} {schema : Schema}

theorem mem_entries_restrict {names : List Value} {entry : Entry} :
    entry ∈ (schema.restrict names).entries ↔
      entry ∈ schema.entries ∧ .text entry.field ∈ names := by
  simp [restrict]

theorem HasNoFunctions.restrict (h : schema.HasNoFunctions) (names : List Value) :
    (schema.restrict names).HasNoFunctions :=
  fun entry hentry => h entry (mem_entries_restrict.mp hentry).1

/-- A check that fails for a part of the fields fails for all of them. -/
theorem FailsWith.of_isPart {stack : Stack} {part : Mapping} (hpart : part.IsPart items)
    {failure : Failure} (h : schema.FailsWith stack part failure) :
    schema.FailsWith stack items failure := by
  obtain ⟨entry, hentry, rule, hrule, hfails⟩ := h
  refine ⟨entry, hentry, rule, hrule, ?_⟩
  rcases hpart.getOrNull_eq_or entry.field with hsame | hnull
  · exact hsame ▸ hfails.of_isPart hpart
  · obtain ⟨kind, -, hkind⟩ := hfails
    rw [hnull] at hkind
    exact absurd hkind kind.not_failsWith_null

/-- The trials of an entry are all about its field. -/
theorem filter_entry_trials (entry : Entry) (p : String → Bool) :
    ((entry.trials s lib items).filter fun t => p t.finding.field) =
      if p entry.field then entry.trials s lib items else [] := by
  by_cases hfield : p entry.field = true
  · rw [if_pos hfield, List.filter_eq_self]
    intro t ht
    rw [Entry.field_finding_of_mem_trials ht, hfield]
  · rw [if_neg hfield, List.filter_eq_nil_iff]
    intro t ht
    rw [Entry.field_finding_of_mem_trials ht]
    exact hfield

/-- All findings of an entry are for its field. -/
theorem kindsIn_noted_entry (entry : Entry) (field : String) :
    Report.kindsIn (Trial.noted (entry.trials s lib items)) field =
      if entry.field = field then (Trial.noted (entry.trials s lib items)).map Finding.kind
      else [] := by
  rw [Report.kindsIn, ← Trial.noted_filter fun finding => decide (finding.field = field),
    filter_entry_trials entry fun name => decide (name = field)]
  by_cases h : entry.field = field <;> simp [h]

/-- The findings for a field are those of its own entries. -/
theorem kindsIn_noted (schema : Schema) (field : String) :
    Report.kindsIn (Trial.noted (schema.trials s lib items)) field =
      (schema.entries.filter (·.field = field)).flatMap fun entry =>
        (Trial.noted (entry.trials s lib items)).map Finding.kind := by
  obtain ⟨entries⟩ := schema
  induction entries with
  | nil => rfl
  | cons entry rest ih =>
      rw [trials_cons, Trial.noted_append, Report.kindsIn_append, ih, kindsIn_noted_entry]
      by_cases h : entry.field = field <;> simp [h]

/-- The trials of a part of a schema are those of the whole that are about the fields of the part. -/
theorem trials_restrict (schema : Schema) (names : List Value) :
    (schema.restrict names).trials s lib items =
      (schema.trials s lib items).filter fun t => (Value.text t.finding.field).isMember names := by
  obtain ⟨entries⟩ := schema
  induction entries with
  | nil => rfl
  | cons entry rest ih =>
      rw [trials_cons, List.filter_append, ← ih,
        filter_entry_trials entry fun field => (Value.text field).isMember names]
      cases hfield : (Value.text entry.field).isMember names <;> simp [restrict, trials, hfield]

/-- The findings for a field are the same in a part of the schema that has the field. -/
theorem kindsIn_noted_restrict {names : List Value} {field : String}
    (hfield : .text field ∈ names) :
    Report.kindsIn (Trial.noted ((schema.restrict names).trials s lib items)) field =
      Report.kindsIn (Trial.noted (schema.trials s lib items)) field := by
  rw [trials_restrict,
    Trial.noted_filter fun finding => (Value.text finding.field).isMember names]
  simp only [Report.kindsIn, List.filter_filter]
  congr 1
  refine List.filter_congr fun finding _ => ?_
  by_cases h : finding.field = field <;> simp [h, hfield]

/-- A part of a schema makes some of the trials of the whole. -/
theorem trials_restrict_subset (schema : Schema) (names : List Value) :
    (schema.restrict names).trials s lib items ⊆ schema.trials s lib items := by
  rw [trials_restrict]
  exact List.filter_subset_self _

end Schema

/-- A library that takes a schema over takes over its parts. -/
theorem Library.compile_restrict {lib : Library} {schema : Schema}
    (hcompile : lib.compile (.compiled schema) = .ok schema) (names : List Value) :
    lib.compile (.compiled (schema.restrict names)) = .ok (schema.restrict names) := by
  obtain ⟨-, hknows⟩ := compile_compiled_eq_ok_iff.mp hcompile
  exact compile_compiled_eq_ok_iff.mpr
    ⟨rfl, fun entry hentry => hknows entry (Schema.mem_entries_restrict.mp hentry).1⟩

/-- The trials of a schema without functions make no calls. -/
theorem Library.calls_trials_standard {s : Surroundings} {items : Mapping} {schema : Schema}
    (hcompile : standard.compile (.compiled schema) = .ok schema) (hplain : schema.HasNoFunctions) :
    Trial.calls (schema.trials s standard items) = [] := by
  obtain ⟨-, hknows⟩ := compile_compiled_eq_ok_iff.mp hcompile
  simp only [Trial.calls, List.flatMap_eq_nil_iff, Schema.trials, List.mem_flatMap]
  rintro t ⟨entry, hentry, ht⟩
  obtain ⟨⟨field, rules, rfl⟩, hinline⟩ := hplain entry hentry
  obtain ⟨rule, hrule, rfl⟩ := List.mem_map.mp ht
  obtain ⟨kind, -, hpasses⟩ :=
    exists_passes_standard_eq (hknows _ hentry rule hrule) (hinline rule hrule)
  rw [hpasses]

/-- The findings for a field are the same where the field, and those that it is compared with, have
the same values. -/
theorem Library.kindsIn_noted_congr {s : Surroundings} {items part : Mapping} {schema : Schema}
    (hcompile : standard.compile (.compiled schema) = .ok schema) (hplain : schema.HasNoFunctions)
    {field : String}
    (hfield : Mapping.getOrNull part (.text field) = Mapping.getOrNull items (.text field))
    (hcompared : ∀ x, schema.Compares field x →
      Mapping.getOrNull part (.text x) = Mapping.getOrNull items (.text x)) :
    Report.kindsIn (Trial.noted (schema.trials s standard part)) field =
      Report.kindsIn (Trial.noted (schema.trials s standard items)) field := by
  have hsame : ∀ entry ∈ schema.entries.filter (·.field = field),
      entry.trials s standard part = entry.trials s standard items := by
    intro entry hentry
    obtain ⟨hmem, rfl⟩ : entry ∈ schema.entries ∧ entry.field = field := by simpa using hentry
    refine Entry.trials_congr hcompile hplain hmem hfield ?_
    exact fun rule hrule x hx => hcompared x ⟨entry, hmem, rfl, rule, hrule, hx⟩
  simp only [Schema.kindsIn_noted]
  rw [List.flatMap_congr fun entry hentry => by rw [hsame entry hentry]]

/-! ## Checks of parts -/

namespace Form

variable {s : Surroundings} {form : Form} {items part : Mapping}

/-- A field and its related fields make a part of all fields. -/
theorem exists_collect (items : Mapping) {names : List Value}
    (hkeys : ∀ name ∈ names, name.canBeKey = true) {made : Mapping} (hmade : made.IsPart items) :
    ∃ part, collect items made names = .ok part ∧ part.IsPart items ∧
      Mapping.keys part = names.foldl Members.add (Mapping.keys made) := by
  induction names generalizing made with
  | nil => exact ⟨made, rfl, hmade, rfl⟩
  | cons name rest ih =>
      obtain ⟨hname, hrest⟩ := List.forall_mem_cons.mp hkeys
      obtain ⟨part, hpart, hsub, hkeys⟩ := ih hrest (hmade.put name)
      refine ⟨part, ?_, hsub, ?_⟩
      · simpa [collect, Mapping.asKey, hname, bind, Except.bind] using hpart
      · rw [hkeys, Mapping.keys_put, List.foldl_cons]

/-- The values of a field and its related fields, under their names without repetition. -/
theorem exists_fieldData {name : Value} {related : List Value}
    (hrelated : form.relatedFields name = .ok related)
    (hkeys : ∀ key ∈ name :: related, key.canBeKey = true) (items : Mapping) :
    ∃ part, form.fieldData name (.mapping items) = .ok part ∧ part.IsPart items ∧
      Mapping.keys part = Members.ofList (name :: related) := by
  obtain ⟨part, hpart, hsub, hnames⟩ := exists_collect items hkeys (.nil items)
  refine ⟨part, ?_, hsub, hnames⟩
  simpa [fieldData, hrelated, bind, Except.bind] using hpart

/-- What a form has a report on, its library takes over. -/
theorem compile_of_validate {data : Value} {report : Report}
    (h : (form.validate s data).result = .ok report) :
    form.library.compile (.compiled form.schema) = .ok form.schema := by
  obtain ⟨schema, hschema⟩ := Library.exists_compile_of_validate_eq_ok h
  obtain ⟨rfl, -⟩ := Library.compile_compiled_eq_ok_iff.mp hschema
  exact hschema

/-- If there is a report on all fields, there is one on a part of them. It has the same findings for a
field that has the same value, if those that it is compared with have. -/
theorem exists_validate_of_isPart (hlib : form.library = .standard)
    (hplain : form.schema.HasNoFunctions) {report : Report}
    (hreport : (form.validate s (.mapping items)).result = .ok report)
    (hpart : part.IsPart items) :
    ∃ report', (form.validate s (.mapping part)).result = .ok report' ∧
      ∀ field, Mapping.getOrNull part (.text field) = Mapping.getOrNull items (.text field) →
        (∀ x, form.schema.Compares field x →
          Mapping.getOrNull part (.text x) = Mapping.getOrNull items (.text x)) →
        report'.kindsOf? field = report.kindsOf? field := by
  have hcompile := compile_of_validate hreport
  rw [hlib] at hcompile
  rw [validate, hlib] at hreport
  -- No check fails on the part, since it would fail on the whole.
  have hanswers : ∀ failure, ¬ form.schema.FailsWith s.stack part failure := fun failure hfails =>
    (Library.validate_standard_eq_ok_iff hcompile hplain).mp ⟨report, hreport⟩ failure
      (hfails.of_isPart hpart)
  obtain ⟨report', hreport'⟩ :=
    (Library.validate_standard_eq_ok_iff (s := s) hcompile hplain).mpr hanswers
  obtain ⟨-, hfound'⟩ := (Library.validate_result_eq_ok_iff hcompile).mp hreport'
  obtain ⟨-, hfound⟩ := (Library.validate_result_eq_ok_iff hcompile).mp hreport
  refine ⟨report', by rw [validate, hlib, hreport'], fun field hfield hcompared => ?_⟩
  rw [Report.kindsOf?_eq, Report.kindsOf?_eq, hfound', hfound,
    Library.kindsIn_noted_congr hcompile hplain hfield hcompared]

/-- If a part of the fields has a report by the whole schema, it has one by the part of the schema that
is about them, without a call. The findings for the fields of the part are the same. -/
theorem exists_validatePart (hlib : form.library = .standard) (hplain : form.schema.HasNoFunctions)
    {report : Report} (hreport : (form.validate s (.mapping part)).result = .ok report) :
    ∃ report', form.validatePart s part = ⟨[], .ok report'⟩ ∧
      ∀ field, .text field ∈ Mapping.keys part →
        report'.kindsOf? field = report.kindsOf? field := by
  have hcompile := compile_of_validate hreport
  rw [hlib] at hcompile
  rw [validate, hlib] at hreport
  obtain ⟨hanswered, hfound⟩ := (Library.validate_result_eq_ok_iff hcompile).mp hreport
  have hcompile' := Library.compile_restrict hcompile (Mapping.keys part)
  have hanswered' : ∀ t ∈ (form.schema.restrict (Mapping.keys part)).trials s .standard part,
      t.IsAnswered :=
    fun t ht => hanswered t (form.schema.trials_restrict_subset _ ht)
  have hvalid := Library.validate_of_answered hcompile' hanswered'
  rw [Library.calls_trials_standard hcompile' (hplain.restrict _)] at hvalid
  refine ⟨_, by rw [validatePart, hlib, hvalid], fun field hfield => ?_⟩
  rw [Report.kindsOf?_eq, Report.kindsOf?_eq, hfound, Schema.kindsIn_noted_restrict hfield]

end Form

end FieldRules
