import FieldRules.Proofs.Parts

/-!
# Checking one field

Asked about one field, a form checks the part of the schema that is about the field and its related
fields, on their values alone. The answer is the one that the check of the whole form gives for this
field, provided that the fields it is compared with are among those. What the rules of the related
fields need does not matter, although they are checked along: they have an answer too, and their
findings are for other fields. A field that the schema does not mention is valid.

## Main statements

* `Schema.field_mem_fields_of_mem_noted` — findings are for fields of the schema
* `Form.isValid_agrees` — the answer about one field is that of the whole form
-/

namespace FieldRules

/-- All findings are for fields that the schema mentions. -/
theorem Schema.field_mem_fields_of_mem_noted {s : Surroundings} {lib : Library} {items : Mapping}
    {schema : Schema} {finding : Finding}
    (h : finding ∈ Trial.noted (schema.trials s lib items)) : finding.field ∈ schema.fields := by
  obtain ⟨t, ht, -, rfl⟩ := Trial.mem_noted_iff.mp h
  obtain ⟨entry, hentry, ht⟩ := List.mem_flatMap.mp ht
  rw [Entry.field_finding_of_mem_trials ht]
  exact List.mem_map_of_mem hentry

/-- A field that the schema does not mention has no findings. -/
theorem Library.kindsOf?_eq_none_of_not_mem_fields {s : Surroundings} {lib : Library}
    {items : Mapping} {source : SchemaSource} {schema : Schema} {report : Report}
    (hcompile : lib.compile source = .ok schema)
    (hreport : (lib.validate s (.mapping items) source).result = .ok report) {field : String}
    (hfield : field ∉ schema.fields) : report.kindsOf? field = none := by
  obtain ⟨-, rfl⟩ := (validate_result_eq_ok_iff hcompile).mp hreport
  rw [Report.kindsOf?_eq_none_iff]
  rintro finding hfinding rfl
  exact hfield (Schema.field_mem_fields_of_mem_noted hfinding)

namespace Form

variable {s : Surroundings} {form : Form} {items : Mapping} {name : String} {related : List Value}

/-- A field is valid if the report on the part leaves it clear. -/
theorem isValid_eq {key data : Value} {part : Mapping} {calls : List Call} {report : Report}
    (hdata : form.fieldData key data = .ok part)
    (hvalid : form.validatePart s part = ⟨calls, .ok report⟩) :
    form.isValid s key data = ⟨calls, .ok (isClear report key)⟩ := by
  simp [isValid, hdata, hvalid, Run.ofResult]

/-- If a field is compared with itself and its related fields only, and the whole form has a report,
then the form answers about the field alone, without a call, and says what the whole report does. Of
a field that the schema does not mention it says that it is valid. -/
theorem isValid_agrees (hlib : form.library = .standard) (hplain : form.schema.HasNoFunctions)
    (hrelated : form.relatedFields (.text name) = .ok related)
    (hkeys : ∀ key ∈ related, key.canBeKey = true)
    (hcompared : ∀ x, form.schema.Compares name x → x = name ∨ .text x ∈ related) {report : Report}
    (hreport : (form.validate s (.mapping items)).result = .ok report) :
    ∃ valid, form.isValid s (.text name) (.mapping items) = ⟨[], .ok valid⟩ ∧
      (valid = true ↔ report.get? (.text name) = .ok none) ∧
      (name ∉ form.schema.fields → valid = true) := by
  obtain ⟨part, hdata, hpart, hnames⟩ :=
    exists_fieldData hrelated (List.forall_mem_cons.mpr ⟨rfl, hkeys⟩) items
  obtain ⟨report', hreport', hagree⟩ := exists_validate_of_isPart hlib hplain hreport hpart
  obtain ⟨found, hvalid, hsame⟩ := exists_validatePart hlib hplain hreport'
  have hmem : ∀ x, x = name ∨ .text x ∈ related → .text x ∈ Mapping.keys part := by
    intro x hx
    rw [hnames, Members.text_mem_ofList_iff, List.mem_cons, Value.text.injEq]
    exact hx
  have hname : .text name ∈ Mapping.keys part := hmem name (.inl rfl)
  -- The part has the field and all that it is compared with, so its findings for the field are those
  -- of the whole. Of the related fields no more is needed than that their rules have an answer.
  have hfound : found.kindsOf? name = report.kindsOf? name := by
    rw [hsame name hname]
    exact hagree name (hpart name hname) fun x hx => hpart x (hmem x (hcompared x hx))
  have hclear : isClear found (.text name) = true ↔ report.get? (.text name) = .ok none := by
    have hboth : isClear found (.text name) = isClear report (.text name) :=
      isClear_congr fun field hfield => Value.text.inj hfield ▸ hfound
    rw [hboth, isClear_iff rfl]
  refine ⟨isClear found (.text name), isValid_eq hdata hvalid, hclear, fun houtside => ?_⟩
  have hnone := Library.kindsOf?_eq_none_of_not_mem_fields (compile_of_validate hreport) hreport
    houtside
  simp [isClear, hfound, hnone]

/-- A form with a field that has to match a related one, and a third field. -/
def passwordForm : Form where
  library := .standard
  schema := ⟨[.ruleSet "pwd" [.flag "required" true], .ruleSet "age" [.flag "number" true],
    .ruleSet "confirm" [.flag "required" true, .options "matches" (.text "pwd")]]⟩
  messages := []
  related := [(.text "confirm", [.text "pwd"])]

/-- What is filled in: two passwords that differ, and an age that is no number. -/
def passwordData : Mapping :=
  [(.text "pwd", .text "x"), (.text "confirm", .text "y"), (.text "age", .text "old")]

theorem hasNoFunctions_passwordForm : passwordForm.schema.HasNoFunctions := by
  simp [Schema.HasNoFunctions, passwordForm, Entry.ruleList, Rule.IsInline]

theorem compares_passwordForm_iff (field x : String) :
    passwordForm.schema.Compares field x ↔ field = "confirm" ∧ x = "pwd" := by
  have hname : "matches" = Kind.sameAs.name := rfl
  simp [Schema.Compares, passwordForm, Entry.ruleList, Entry.field, Rule.compared?, hname, eq_comm]

/-- The second password does not match the first. A field that the form does not have is valid. -/
theorem isValid_passwordForm :
    passwordForm.isValid .silent (.text "confirm") (.mapping passwordData) = ⟨[], .ok false⟩ ∧
    passwordForm.isValid .silent (.text "nick") (.mapping passwordData) = ⟨[], .ok true⟩ := by
  have hreport : (passwordForm.validate .silent (.mapping passwordData)).result =
      .ok ⟨[⟨"age", "number"⟩, ⟨"confirm", "matches"⟩], true⟩ := rfl
  have hconfirm : passwordForm.relatedFields (.text "confirm") = .ok [.text "pwd"] := rfl
  have hnick : passwordForm.relatedFields (.text "nick") = .ok [] := rfl
  constructor
  · have hkeys : ∀ key ∈ [Value.text "pwd"], key.canBeKey = true := by simp [Value.canBeKey]
    have hcompared : ∀ x, passwordForm.schema.Compares "confirm" x →
        x = "confirm" ∨ .text x ∈ [Value.text "pwd"] := by
      intro x hx
      obtain ⟨-, rfl⟩ := (compares_passwordForm_iff "confirm" x).mp hx
      exact .inr (List.mem_singleton_self _)
    obtain ⟨valid, hanswer, hvalid, -⟩ := isValid_agrees rfl hasNoFunctions_passwordForm hconfirm
      hkeys hcompared hreport
    have hfound : ¬ valid = true := by
      rw [hvalid]
      intro hnone
      cases hnone
    rw [hanswer, Bool.eq_false_iff.mpr hfound]
  · have hcompared : ∀ x, passwordForm.schema.Compares "nick" x →
        x = "nick" ∨ Value.text x ∈ [] := by
      intro x hx
      exact absurd ((compares_passwordForm_iff "nick" x).mp hx).1 (by decide)
    obtain ⟨valid, hanswer, -, hvalid⟩ := isValid_agrees rfl hasNoFunctions_passwordForm hnick
      (by simp) hcompared hreport
    rw [hanswer, hvalid (by decide)]

end Form

end FieldRules
