import FieldRules.Proofs.Revalidation
import FieldRules.Proofs.SingleField
import Mathlib.Data.List.Nodup
import Mathlib.Data.Set.List

/-!
# Fields and their related fields

A form checks one field on the values of this field and of its related fields. These values are collected
into a mapping of their own, and the functions that callers supply are given that mapping and not the data.
So not even a function that looks at all it is given can tell two data apart that have the same values for
these fields, and what the form answers and calls is the same for both.

The mapping has a key for each of the fields, where it first comes, whether it is listed again, is the field
itself, or is none that the schema mentions. The fields that are told to be valid are among these keys, in
their order. Since both questions are answered by the same report, the field itself is told to be valid
by one exactly if it is by the other.

## Main definitions

* `Form.RelatesTexts` — forms whose related fields are given by texts

## Main statements

* `Form.fieldData_congr` — what is collected depends on the values of these fields alone
* `Form.exists_report_of_revalidate` — what is told is read off one report
* `Form.related_fields_decide` — what both answers depend on, and what they are
-/

namespace FieldRules

namespace Form

variable {s : Surroundings} {form : Form} {items items' : Mapping}

/-- Fields are related to fields, both given by texts. -/
def RelatesTexts (form : Form) : Prop :=
  ∀ entry ∈ form.related, (∃ field, entry.1 = .text field) ∧ ∀ v ∈ entry.2, ∃ x, v = .text x

theorem RelatesTexts.exists_relatedFields (h : form.RelatesTexts) (name : String) :
    ∃ related : List String, form.relatedFields (.text name) = .ok (related.map .text) := by
  have hfields : form.relatedFields (.text name) =
      .ok ((Mapping.get? form.related (.text name)).getD []) := rfl
  rw [hfields]
  cases hget : Mapping.get? form.related (.text name) with
  | none => exact ⟨[], rfl⟩
  | some names =>
      obtain ⟨key, hkey⟩ := Mapping.mem_of_get?_eq_some hget
      have htexts : names ∈ Set.range (List.map Value.text) := by
        rw [Set.range_list_map]
        intro v hv
        obtain ⟨x, rfl⟩ := (h _ hkey).2 v hv
        exact ⟨x, rfl⟩
      obtain ⟨related, rfl⟩ := htexts
      exact ⟨related, rfl⟩

/-! ## What is collected -/

theorem collect_congr {names : List Value}
    (h : ∀ name ∈ names, Mapping.getOrNull items name = Mapping.getOrNull items' name)
    (made : Mapping) : collect items made names = collect items' made names := by
  induction names generalizing made with
  | nil => rfl
  | cons name rest ih =>
      obtain ⟨hname, hrest⟩ := List.forall_mem_cons.mp h
      cases hkey : name.canBeKey with
      | false => simp [collect, Mapping.asKey, hkey, bind, Except.bind]
      | true =>
          have hstep : ∀ data : Mapping, collect data made (name :: rest) =
              collect data (Mapping.put made name (Mapping.getOrNull data name)) rest := by
            intro data
            simp [collect, Mapping.asKey, hkey, bind, Except.bind]
          rw [hstep, hstep, hname]
          exact ih hrest _

/-- Data with the same values for a field and its related fields give the same mapping of them. -/
theorem fieldData_congr {name : Value} {related : List Value}
    (hrelated : form.relatedFields name = .ok related)
    (h : ∀ key ∈ name :: related, Mapping.getOrNull items key = Mapping.getOrNull items' key) :
    form.fieldData name (.mapping items) = form.fieldData name (.mapping items') := by
  simp only [fieldData, hrelated]
  exact collect_congr h []

/-! ## What is told -/

/-- The fields that are told to be valid are read off a report on a mapping of the fields. -/
theorem exists_report_of_revalidate {name data : Value} {cleared : List Value}
    (h : (form.revalidate s name data).result = .ok cleared) :
    ∃ part calls report, form.fieldData name data = .ok part ∧
      form.validatePart s part = ⟨calls, .ok report⟩ ∧
      cleared = (Mapping.keys part).filter (isClear report) := by
  cases hdata : form.fieldData name data with
  | error failure => simp [revalidate, hdata, Run.ofResult] at h
  | ok part =>
      rcases hvalid : form.validatePart s part with ⟨calls, failure | report⟩
      · simp [revalidate, hdata, hvalid, Run.ofResult] at h
      · rw [revalidate_eq hdata hvalid] at h
        exact ⟨part, calls, report, rfl, hvalid, (Except.ok.inj h).symm⟩

/-- A field that the schema does not mention is clear. -/
theorem isClear_of_not_mem_fields {part : Mapping} {calls : List Call} {report : Report}
    (hvalid : form.validatePart s part = ⟨calls, .ok report⟩) {field : String}
    (hfield : field ∉ form.schema.fields) : isClear report (.text field) = true := by
  have hreport : (form.validatePart s part).result = .ok report := by rw [hvalid]
  obtain ⟨schema, hcompile⟩ := Library.exists_compile_of_validate_eq_ok hreport
  obtain ⟨rfl, -⟩ := Library.compile_compiled_eq_ok_iff.mp hcompile
  have hnone : report.kindsOf? field = none := by
    refine Library.kindsOf?_eq_none_of_not_mem_fields hcompile hreport fun hmem => hfield ?_
    obtain ⟨entry, hentry, rfl⟩ := List.mem_map.mp hmem
    exact List.mem_map_of_mem (Schema.mem_entries_restrict.mp hentry).1
  simp [isClear, hnone]

/-- The keys of what is collected are the fields, each where it first comes. -/
theorem keys_fieldData {name : String} {related : List String}
    (hrelated : form.relatedFields (.text name) = .ok (related.map .text)) {part : Mapping}
    (hdata : form.fieldData (.text name) (.mapping items) = .ok part) :
    Mapping.keys part = Members.ofList ((name :: related).map .text) := by
  have hkeys : ∀ key ∈ Value.text name :: related.map .text, key.canBeKey = true := by
    simp [Value.canBeKey]
  obtain ⟨part', hdata', -, hnames⟩ := exists_fieldData hrelated hkeys items
  obtain rfl := Except.ok.inj (hdata.symm.trans hdata')
  exact hnames

/-- For each field, a form answers about the field and those related to it as follows. Both answers, and the
calls that they take, are the same for all data with the same values for these fields. If there is an answer
which of these fields are valid, it tells each of them once at most, in the order in which they are listed,
and it tells all that the schema does not mention. The field itself is valid exactly if it is told. -/
theorem related_fields_decide (hrelated : form.RelatesTexts) (s : Surroundings) (name : String) :
    ∃ related : List String, form.relatedFields (.text name) = .ok (related.map .text) ∧
      (∀ items items' : Mapping, (∀ x ∈ name :: related,
          Mapping.getOrNull items (.text x) = Mapping.getOrNull items' (.text x)) →
        form.revalidate s (.text name) (.mapping items) =
            form.revalidate s (.text name) (.mapping items') ∧
          form.isValid s (.text name) (.mapping items) =
            form.isValid s (.text name) (.mapping items')) ∧
      (∀ items cleared, (form.revalidate s (.text name) (.mapping items)).result = .ok cleared →
        ∃ fields : List String, cleared = fields.map .text ∧
          fields.Nodup ∧ fields.Sublist (name :: related) ∧
          (∀ x ∈ name :: related, x ∉ form.schema.fields → x ∈ fields) ∧
          form.isValid s (.text name) (.mapping items) =
            ⟨(form.revalidate s (.text name) (.mapping items)).calls, .ok (decide (name ∈ fields))⟩) := by
  obtain ⟨related, hfields⟩ := hrelated.exists_relatedFields name
  refine ⟨related, hfields, ?_, ?_⟩
  · intro items items' hsame
    have hdata : form.fieldData (.text name) (.mapping items) =
        form.fieldData (.text name) (.mapping items') := by
      refine fieldData_congr hfields ?_
      simpa only [List.forall_mem_cons, List.forall_mem_map] using hsame
    exact ⟨by simp only [revalidate, hdata], by simp only [isValid, hdata]⟩
  · intro items cleared hcleared
    obtain ⟨part, calls, report, hdata, hvalid, hread⟩ := exists_report_of_revalidate hcleared
    rw [keys_fieldData hfields hdata] at hread
    have hlisted : cleared.Sublist ((name :: related).map .text) :=
      hread ▸ List.filter_sublist.trans (Members.ofList_sublist _)
    have honce : cleared.Nodup := hread ▸ (Members.nodup_ofList_text _).filter _
    obtain ⟨fields, hsublist, rfl⟩ := List.sublist_map_iff.mp hlisted
    have hmem : ∀ x ∈ name :: related, x ∈ fields ↔ isClear report (.text x) = true := by
      intro x hx
      have hkey : Value.text x ∈ Members.ofList ((name :: related).map .text) :=
        Members.text_mem_ofList_iff.mpr (List.mem_map_of_mem hx)
      have htold : Value.text x ∈ fields.map .text ↔ isClear report (.text x) = true := by
        rw [hread, List.mem_filter, and_iff_right hkey]
      simpa using htold
    refine ⟨fields, rfl, List.Nodup.of_map Value.text honce, hsublist, ?_, ?_⟩
    · intro x hx houtside
      exact (hmem x hx).mpr (isClear_of_not_mem_fields hvalid houtside)
    · have hclear : isClear report (.text name) = decide (name ∈ fields) := by
        rw [Bool.eq_iff_iff, decide_eq_true_eq, hmem name List.mem_cons_self]
      rw [isValid_eq hdata hvalid, revalidate_eq hdata hvalid, hclear]

/-- A form whose first field is checked by a function, and is listed among its related fields, as is the
second one, twice, and one that the form does not have. -/
def gateForm : Form where
  library := .standard
  schema := ⟨[.ruleSet "code" [.flag "required" true], .custom "gate" 0]⟩
  messages := []
  related := [(.text "gate", [.text "code", .text "gate", .text "note", .text "code"])]

/-- What the function answers, that of the first field, on a day. -/
def gateAnswers : Surroundings where
  answer _ arguments := .ok (arguments.getD 0 .null)
  today := Surroundings.silent.today
  stack := Surroundings.silent.stack

theorem relatesTexts_gateForm : gateForm.RelatesTexts := by
  simp [RelatesTexts, gateForm]

/-- The function is called with the three fields, whatever else there is. It says no, the second field is
missing, and the third is told to be valid. -/
theorem related_fields_decide_gate :
    gateForm.RelatesTexts ∧
    gateForm.revalidate gateAnswers (.text "gate")
        (.mapping [(.text "age", .int 5), (.text "gate", .bool false)]) =
      ⟨[⟨0, [.bool false, .mapping [(.text "gate", .bool false), (.text "code", .null),
        (.text "note", .null)]]⟩], .ok [.text "note"]⟩ ∧
    (gateForm.isValid gateAnswers (.text "gate") (.mapping [(.text "gate", .bool false)])).result =
      .ok false := by
  obtain ⟨related, hfields, hsame, htold⟩ :=
    related_fields_decide relatesTexts_gateForm gateAnswers "gate"
  have hlist : gateForm.relatedFields (.text "gate") =
      .ok (["code", "gate", "note", "code"].map .text) := rfl
  obtain rfl : ["code", "gate", "note", "code"] = related :=
    List.map_injective_iff.mpr (fun _ _ => Value.text.inj) (Except.ok.inj (hlist.symm.trans hfields))
  refine ⟨relatesTexts_gateForm, ?_, ?_⟩
  · have hage : ∀ x ∈ ["gate", "code", "gate", "note", "code"],
        Mapping.getOrNull [(.text "age", .int 5), (.text "gate", .bool false)] (.text x) =
          Mapping.getOrNull [(.text "gate", .bool false)] (.text x) := by
      simp only [List.forall_mem_cons]
      exact ⟨rfl, rfl, rfl, rfl, rfl, by simp⟩
    rw [(hsame _ _ hage).1]
    rfl
  · obtain ⟨fields, hcleared, -, -, -, hvalid⟩ :=
      htold [(.text "gate", .bool false)] [.text "note"] rfl
    have hgate : "gate" ∉ fields := by
      intro hmem
      have htext : Value.text "gate" ∈ [Value.text "note"] := hcleared ▸ List.mem_map_of_mem hmem
      simp at htext
    rw [hvalid, decide_eq_false hgate]

end Form

end FieldRules
