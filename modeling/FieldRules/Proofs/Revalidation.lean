import FieldRules.Proofs.Parts

/-!
# Checking fields again

After a change, a form checks a field again together with the fields related to it, and leaves all
others out. It tells which of them are valid now, so that their errors need no longer be displayed. What it
tells ought to be what a check of the whole form tells, but it is what such a check tells when all other
fields are missing. The two agree on each field whose rules compare it only with fields that are checked
along or missing anyway. The field that was changed is such a field if its related fields are fully
declared. A related field need not be: the fields that are related to it in turn are left out, and it can
be told to be valid although it is not.

## Main definitions

* `Form.IsFullyDeclared` — forms whose fields are compared with related fields only
* `Form.IsCovered` — fields that are compared with given fields only, and with missing ones

## Main statements

* `Form.revalidate_agrees` — what is told of covered fields is what the whole form tells
* `Form.revalidate_disagrees` — of other fields, what is told can be wrong
-/

namespace FieldRules

namespace Form

/-- Each field that another one is compared with is listed among those related to it. -/
def IsFullyDeclared (form : Form) : Prop :=
  ∀ field x, form.schema.Compares field x → x ≠ field →
    .text x ∈ (Mapping.get? form.related (.text field)).getD []

/-- All fields that a field is compared with are among the given ones, or have no value. -/
def IsCovered (form : Form) (items : Mapping) (keys : List Value) (key : Value) : Prop :=
  ∀ field x, key = .text field → form.schema.Compares field x →
    .text x ∈ keys ∨ Mapping.getOrNull items (.text x) = .null

variable {s : Surroundings} {form : Form} {items : Mapping} {name : Value} {related : List Value}

/-- A field of a fully declared form is covered by itself and its related fields. -/
theorem IsFullyDeclared.isCovered (hdeclared : form.IsFullyDeclared)
    (hrelated : form.relatedFields name = .ok related) (items : Mapping) :
    form.IsCovered items (Members.ofList (name :: related)) name := by
  rintro field x rfl hcompares
  obtain rfl : (Mapping.get? form.related (.text field)).getD [] = related := by
    simpa [relatedFields, Mapping.asKey, Value.canBeKey, Except.map] using hrelated
  rw [Members.text_mem_ofList_iff]
  by_cases hx : x = field
  · exact .inl (hx ▸ List.mem_cons_self)
  · exact .inl (List.mem_cons_of_mem _ (hdeclared field x hcompares hx))

/-- The fields that are told are those without a finding in the report on the part. -/
theorem revalidate_eq {data : Value} {part : Mapping} {calls : List Call} {report : Report}
    (hdata : form.fieldData name data = .ok part)
    (hvalid : form.validatePart s part = ⟨calls, .ok report⟩) :
    form.revalidate s name data = ⟨calls, .ok ((Mapping.keys part).filter (isClear report))⟩ := by
  simp [revalidate, hdata, hvalid, Run.ofResult]

/-- Of a field and its related fields, a fully declared form tells those that are valid when all others
are missing. It tells the same of the field itself, and of each related one that is covered, as a check
of the whole form. -/
theorem revalidate_agrees (hlib : form.library = .standard) (hplain : form.schema.HasNoFunctions)
    (hdeclared : form.IsFullyDeclared) (hrelated : form.relatedFields name = .ok related)
    (hkeys : ∀ key ∈ name :: related, key.canBeKey = true) {report : Report}
    (hreport : (form.validate s (.mapping items)).result = .ok report) :
    ∃ part cleared report', form.fieldData name (.mapping items) = .ok part ∧
      Mapping.keys part = Members.ofList (name :: related) ∧
      form.revalidate s name (.mapping items) = ⟨[], .ok cleared⟩ ∧
      (form.validate s (.mapping part)).result = .ok report' ∧
      cleared = (Mapping.keys part).filter report'.lacks ∧
      (name ∈ cleared ↔ report.get? name = .ok none) ∧
      (∀ key ∈ Mapping.keys part, form.IsCovered items (Mapping.keys part) key →
        (key ∈ cleared ↔ report.get? key = .ok none)) ∧
      ((∀ key ∈ Mapping.keys part, form.IsCovered items (Mapping.keys part) key) →
        cleared = (Mapping.keys part).filter report.lacks) := by
  obtain ⟨part, hdata, hpart, hnames⟩ := exists_fieldData hrelated hkeys items
  obtain ⟨report', hreport', hagree⟩ := exists_validate_of_isPart hlib hplain hreport hpart
  obtain ⟨found, hvalid, hsame⟩ := exists_validatePart hlib hplain hreport'
  have hcanBeKey : ∀ key ∈ Mapping.keys part, key.canBeKey = true :=
    fun key hkey => hkeys key (Members.mem_of_mem_ofList (hnames ▸ hkey))
  have hfound : (Mapping.keys part).filter (isClear found) =
      (Mapping.keys part).filter (isClear report') :=
    List.filter_congr fun key hkey => isClear_congr fun field h => hsame field (h ▸ hkey)
  have hclear : ∀ key ∈ Mapping.keys part, form.IsCovered items (Mapping.keys part) key →
      isClear report' key = isClear report key := by
    intro key hkey hcovered
    refine isClear_congr fun field h => hagree field (hpart field (h ▸ hkey)) fun x hx => ?_
    exact hpart.getOrNull_eq (hcovered field x h hx)
  have hmem : ∀ key ∈ Mapping.keys part, form.IsCovered items (Mapping.keys part) key →
      (key ∈ (Mapping.keys part).filter (isClear report') ↔ report.get? key = .ok none) := by
    intro key hkey hcovered
    rw [List.mem_filter, and_iff_right hkey, hclear key hkey hcovered,
      isClear_iff (hcanBeKey key hkey)]
  refine ⟨part, (Mapping.keys part).filter (isClear report'), report', hdata, hnames,
    hfound ▸ revalidate_eq hdata hvalid, hreport', filter_isClear_eq hcanBeKey, ?_, hmem, ?_⟩
  · exact hmem name (hnames ▸ Members.head_mem_ofList name related)
      (hnames ▸ hdeclared.isCovered hrelated items)
  · intro hcovered
    rw [← filter_isClear_eq hcanBeKey]
    exact List.filter_congr fun key hkey => hclear key hkey (hcovered key hkey)

/-- A form whose first field is related to a second one, and this to a third, which it has to match. -/
def chainForm : Form where
  library := .standard
  schema := ⟨[.ruleSet "a" [.flag "required" true], .ruleSet "b" [.options "matches" (.text "c")],
    .ruleSet "c" []]⟩
  messages := []
  related := [(.text "a", [.text "b"]), (.text "b", [.text "c"])]

theorem hasNoFunctions_chainForm : chainForm.schema.HasNoFunctions := by
  simp [Schema.HasNoFunctions, chainForm, Entry.ruleList, Rule.IsInline]

theorem compares_chainForm_iff (field x : String) :
    chainForm.schema.Compares field x ↔ field = "b" ∧ x = "c" := by
  have hname : "matches" = Kind.sameAs.name := rfl
  simp [Schema.Compares, chainForm, Entry.ruleList, Entry.field, Rule.compared?, hname, eq_comm]

theorem isFullyDeclared_chainForm : chainForm.IsFullyDeclared := by
  intro field x hcompares _
  obtain ⟨rfl, rfl⟩ := (compares_chainForm_iff field x).mp hcompares
  exact List.mem_singleton_self _

/-- The second field does not match the third, and of the two the third is valid. -/
theorem revalidate_chainForm :
    chainForm.revalidate .silent (.text "b")
      (.mapping [(.text "b", .text "x"), (.text "c", .text "y")]) = ⟨[], .ok [.text "c"]⟩ := by
  have hkeys : ∀ key ∈ [Value.text "b", .text "c"], key.canBeKey = true := by
    simp [Value.canBeKey]
  have hreport : (chainForm.validate .silent
      (.mapping [(.text "b", .text "x"), (.text "c", .text "y")])).result =
        .ok ⟨[⟨"a", "required"⟩, ⟨"b", "matches"⟩], true⟩ := rfl
  obtain ⟨part, cleared, -, hdata, -, hcleared, -, -, -, -, hall⟩ := revalidate_agrees rfl
    hasNoFunctions_chainForm isFullyDeclared_chainForm rfl hkeys hreport
  have hpart : [(.text "b", .text "x"), (.text "c", .text "y")] = part := Except.ok.inj hdata
  subst hpart
  have hcovered : ∀ key ∈ [Value.text "b", .text "c"],
      chainForm.IsCovered [(.text "b", .text "x"), (.text "c", .text "y")]
        [.text "b", .text "c"] key := by
    rintro key - field x - hcompares
    obtain ⟨-, rfl⟩ := (compares_chainForm_iff field x).mp hcompares
    exact .inl (by simp)
  rw [hcleared, hall hcovered]
  rfl

/-- What is told is not always what the whole form tells. When the first field has changed, the second one
is told to be valid, although it does not match the third: this is left out. -/
theorem revalidate_disagrees :
    ¬ ∀ (form : Form) (name : Value) (related : List Value) (s : Surroundings) (items : Mapping)
      (report : Report), form.library = .standard → form.schema.HasNoFunctions →
      form.IsFullyDeclared → form.relatedFields name = .ok related →
      (∀ key ∈ name :: related, key.canBeKey = true) →
      (form.validate s (.mapping items)).result = .ok report →
      ∃ part, form.fieldData name (.mapping items) = .ok part ∧
        form.revalidate s name (.mapping items) =
          ⟨[], .ok ((Mapping.keys part).filter report.lacks)⟩ := by
  intro h
  let items : Mapping := [(.text "a", .text "x"), (.text "c", .text "y")]
  have hkeys : ∀ key ∈ [Value.text "a", .text "b"], key.canBeKey = true := by
    simp [Value.canBeKey]
  have hreport : (chainForm.validate .silent (.mapping items)).result =
      .ok ⟨[⟨"b", "matches"⟩], true⟩ := rfl
  have hvalid : chainForm.validatePart .silent [(.text "a", .text "x"), (.text "b", .null)] =
      ⟨[], .ok ⟨[], true⟩⟩ := rfl
  obtain ⟨part, hdata, hsame⟩ := h chainForm (.text "a") [.text "b"] .silent items _ rfl
    hasNoFunctions_chainForm isFullyDeclared_chainForm rfl hkeys hreport
  have hpart : [(.text "a", .text "x"), (.text "b", .null)] = part := Except.ok.inj hdata
  subst hpart
  rw [revalidate_eq hdata hvalid] at hsame
  cases hsame

end Form

end FieldRules
