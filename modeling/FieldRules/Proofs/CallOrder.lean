import FieldRules.Proofs.Precompiled

/-!
# The calls of a validation

Callers supply functions in three places: in place of the rules of a field, as a rule of their own, and
in a library under a kind. Which of them a validation calls, and what it gives them, can be listed from
the schema and the fields alone, before anything is asked: one inquiry for each rule, in the order of
the schema. A validation makes all of them, each once, whatever the answers are and whichever rules
fail. It stops early in one case only. If an inquiry is not answered, the calls up to and including it
are made, and its failure is that of the validation.

Built-in checks take no calls. They are inquiries all the same, since they may fail, and then the
functions after them are not called.

## Main definitions

* `Inquiry` — what is asked to check one value by one rule
* `Schema.inquiries` — the inquiries of a compiled schema
* `RawSchema.inquiries` — those of a raw schema

## Main statements

* `Schema.inquiries_made` — the trials of a schema make its inquiries, one each
* `RawSchema.inquiries_eq` — compiling does not change what is asked
* `Library.validate_calls_in_order` — the calls of a validation
-/

namespace FieldRules

/-! ## Inquiries -/

/-- What is asked to check a value: a function that a caller supplied, or a built-in check. -/
inductive Inquiry where
  | function (call : Call)
  | builtin (kind : Kind) (value options : Value)

namespace Inquiry

/-- The call that an inquiry takes; a built-in check takes none. -/
def call? : Inquiry → Option Call
  | .function call => some call
  | .builtin _ _ _ => none

/-- The calls of inquiries, in order. -/
def calls (inquiries : List Inquiry) : List Call :=
  inquiries.filterMap call?

/-- The answer to an inquiry, for given fields. -/
def answer (s : Surroundings) (items : Mapping) : Inquiry → Except Failure Value
  | .function call => s.answer call.function call.arguments
  | .builtin kind value options =>
    (kind.judge s value options (.mapping items)).map Verdict.toValue

/-- An inquiry has an answer. -/
def IsAnswered (s : Surroundings) (items : Mapping) (i : Inquiry) : Prop :=
  ∃ a, i.answer s items = .ok a

@[simp] theorem calls_cons (i : Inquiry) (rest : List Inquiry) :
    calls (i :: rest) = i.call?.toList ++ calls rest := by
  cases h : i.call? <;> simp [calls, h]

end Inquiry

/-- What the check under a kind is asked: an added function is given the value, the options and all
fields. -/
def Library.inquiry? (lib : Library) (items : Mapping) (kind value options : Value) :
    Option Inquiry :=
  match lib.check? kind with
  | some (.builtin kind) => some (.builtin kind value options)
  | some (.supplied (.function f)) => some (.function ⟨f, [value, options, .mapping items]⟩)
  | _ => none

section Lists

variable (lib : Library) (items : Mapping)

/-- What a rule asks about a value. A function of its own is given the value and all fields. -/
def Rule.inquiry? (value : Value) : Rule → Option Inquiry
  | .inline _ f => some (.function ⟨f, [value, .mapping items]⟩)
  | rule => lib.inquiry? items (.text rule.kind) value rule.given

/-- What an entry asks about the value of its field, null if the field is missing. -/
def Entry.inquiries (entry : Entry) : List Inquiry :=
  let value := Mapping.getOrNull items (.text entry.field)
  match entry with
  | .custom _ f => [.function ⟨f, [value, .mapping items]⟩]
  | .ruleSet _ rules => rules.filterMap (Rule.inquiry? lib items value)

/-- The inquiries of a compiled schema, field by field and rule by rule. -/
def Schema.inquiries (schema : Schema) : List Inquiry :=
  schema.entries.flatMap (Entry.inquiries lib items)

namespace RawSchema

/-- What a rule of a raw schema asks about a value. -/
def ruleInquiry? (value : Value) (rule : Value × Value) : Option Inquiry :=
  if lib.contains rule.1 then lib.inquiry? items rule.1 value rule.2
  else
    match rule.2 with
    | .function f => some (.function ⟨f, [value, .mapping items]⟩)
    | _ => none

/-- What is asked about one field of a raw schema. -/
def entryInquiries (entry : Value × Value) : List Inquiry :=
  let value := Mapping.getOrNull items entry.1
  match entry.2 with
  | .function f => [.function ⟨f, [value, .mapping items]⟩]
  | .mapping rules => rules.filterMap (ruleInquiry? lib items value)
  | _ => []

/-- The inquiries of a raw schema, field by field and rule by rule. -/
def inquiries (schema : Mapping) : List Inquiry :=
  schema.flatMap (entryInquiries lib items)

end RawSchema

end Lists

variable {s : Surroundings} {lib : Library} {items : Mapping}

/-! ## The inquiries that are made -/

namespace Inquiry

/-- A trial makes an inquiry: it takes the same call, and has an answer exactly if the inquiry has
one, or else the same failure. -/
structure IsMadeBy (s : Surroundings) (items : Mapping) (i : Inquiry) (t : Trial) : Prop where
  calls_eq : t.passed.calls = i.call?.toList
  result_eq : ∃ accepts : Value → Bool, t.passed.result = (i.answer s items).map accepts

theorem IsMadeBy.isAnswered_iff {i : Inquiry} {t : Trial} (h : i.IsMadeBy s items t) :
    t.IsAnswered ↔ i.IsAnswered s items := by
  obtain ⟨accepts, hresult⟩ := h.result_eq
  cases ha : i.answer s items <;> simp [Trial.IsAnswered, IsAnswered, hresult, ha, Except.map]

theorem IsMadeBy.result_of_failure {i : Inquiry} {t : Trial} (h : i.IsMadeBy s items t)
    {failure : Failure} (ha : i.answer s items = .error failure) :
    t.passed.result = .error failure := by
  obtain ⟨accepts, hresult⟩ := h.result_eq
  rw [hresult, ha]
  rfl

/-- Trials take the calls of the inquiries that they make. -/
theorem calls_eq_of_isMadeBy {inquiries : List Inquiry} {trials : List Trial}
    (h : List.Forall₂ (IsMadeBy s items) inquiries trials) :
    Trial.calls trials = calls inquiries := by
  induction h with
  | nil => rfl
  | cons hit _ ih => rw [Trial.calls_cons, calls_cons, hit.calls_eq, ih]

/-- Trials are all answered exactly if the inquiries that they make are. -/
theorem forall_isAnswered_iff {inquiries : List Inquiry} {trials : List Trial}
    (h : List.Forall₂ (IsMadeBy s items) inquiries trials) :
    (∀ t ∈ trials, t.IsAnswered) ↔ ∀ i ∈ inquiries, i.IsAnswered s items := by
  induction h with
  | nil => simp
  | cons hit _ ih => rw [List.forall_mem_cons, List.forall_mem_cons, hit.isAnswered_iff, ih]

end Inquiry

/-- A rule that the library knows makes one inquiry. -/
theorem Rule.exists_inquiry?_of_knows (hlib : lib.IsUsable) {rule : Rule}
    (hknows : lib.knows rule = true) (field : String) (value : Value) :
    ∃ i, rule.inquiry? lib items value = some i ∧
      i.IsMadeBy s items ⟨⟨field, rule.kind⟩, lib.passes s (.mapping items) value rule⟩ := by
  by_cases hrule : rule.IsInline
  · obtain ⟨kind, f, rfl⟩ := hrule
    refine ⟨_, rfl, ?_⟩
    rw [Library.passes_inline]
    exact ⟨rfl, _, rfl⟩
  · obtain ⟨check, hcheck, husable⟩ := hlib.exists_check?_of_knows hknows hrule
    have hasked : rule.inquiry? lib items value =
        lib.inquiry? items (.text rule.kind) value rule.given := by
      cases rule with
      | inline kind f => exact absurd ⟨kind, f, rfl⟩ hrule
      | _ => rfl
    rw [hasked, Library.inquiry?, hcheck, Library.passes_of_check? hrule hcheck]
    cases check with
    | builtin kind => exact ⟨_, rfl, rfl, _, rfl⟩
    | supplied item =>
        cases item with
        | function f => exact ⟨_, rfl, rfl, _, rfl⟩
        | _ => simp [Check.IsUsable] at husable

/-- The trials of known rules make the inquiries of the rules, one each. -/
theorem Entry.inquiries_made (hlib : lib.IsUsable) {entry : Entry}
    (hknows : ∀ rule ∈ entry.ruleList, lib.knows rule = true) :
    List.Forall₂ (Inquiry.IsMadeBy s items) (entry.inquiries lib items)
      (entry.trials s lib items) := by
  cases entry with
  | custom field f =>
      refine .cons ?_ .nil
      rw [Library.passesCustom_eq]
      exact ⟨rfl, _, rfl⟩
  | ruleSet field rules =>
      simp only [Entry.inquiries, Entry.trials, Entry.field]
      replace hknows : ∀ rule ∈ rules, lib.knows rule = true := hknows
      induction rules with
      | nil => exact .nil
      | cons rule rest ih =>
          obtain ⟨hrule, hrest⟩ := List.forall_mem_cons.mp hknows
          obtain ⟨i, hasked, hmade⟩ := Rule.exists_inquiry?_of_knows hlib hrule field
            (Mapping.getOrNull items (.text field))
          rw [List.filterMap_cons_some hasked]
          exact .cons hmade (ih hrest)

/-- The trials of a schema whose rules are known make its inquiries, one each. -/
theorem Schema.inquiries_made (hlib : lib.IsUsable) {schema : Schema}
    (hknows : ∀ entry ∈ schema.entries, ∀ rule ∈ entry.ruleList, lib.knows rule = true) :
    List.Forall₂ (Inquiry.IsMadeBy s items) (schema.inquiries lib items)
      (schema.trials s lib items) := by
  obtain ⟨entries⟩ := schema
  induction entries with
  | nil => exact .nil
  | cons entry rest ih =>
      obtain ⟨hentry, hrest⟩ := List.forall_mem_cons.mp hknows
      exact List.rel_append (Entry.inquiries_made hlib hentry) (ih hrest)

/-! ## Raw schemas -/

namespace RawSchema

open Library

theorem ruleInquiry?_eq (value : Value) {raw : Value × Value} {rule : Rule}
    (htext : ∃ kind, raw.1 = .text kind) (hrule : CompilesRule lib raw rule) :
    ruleInquiry? lib items value raw = rule.inquiry? lib items value := by
  obtain ⟨name, hname⟩ := htext
  cases hrule with
  | flag hknown htext | options hknown htext =>
      obtain rfl := hname
      obtain rfl := Except.ok.inj htext
      simp [ruleInquiry?, Rule.inquiry?, Rule.kind, Rule.given, hknown]
  | inline hunknown htext => simp [ruleInquiry?, Rule.inquiry?, hunknown]

theorem entryInquiries_eq {raw : Value × Value} {entry : Entry}
    (htext : (∃ field, raw.1 = .text field) ∧ HasTextKinds raw.2)
    (hentry : CompilesEntry lib raw entry) :
    entryInquiries lib items raw = entry.inquiries lib items := by
  obtain ⟨⟨name, hname⟩, hkinds⟩ := htext
  cases hentry with
  | custom hfield =>
      obtain rfl := hname
      obtain rfl := Except.ok.inj hfield
      rfl
  | @ruleSet key field rules compiled hfield heach =>
      obtain rfl : key = .text name := hname
      obtain rfl := Except.ok.inj hfield
      simp only [entryInquiries, Entry.inquiries, Entry.field]
      induction heach with
      | nil => rfl
      | cons hrule _ ih =>
          obtain ⟨hkind, hrest⟩ := List.forall_mem_cons.mp hkinds
          rw [List.filterMap_cons, List.filterMap_cons, ruleInquiry?_eq _ hkind hrule, ih hrest]

/-- A compiled schema asks what the raw one asks, in the same order. -/
theorem inquiries_eq {schema : Mapping} {compiled : Schema} (htext : HasTextNames (.mapping schema))
    (hcompile : lib.compile (.raw (.mapping schema)) = .ok compiled) :
    inquiries lib items schema = compiled.inquiries lib items := by
  have hentries := (compile_raw_eq_ok_iff schema compiled).mp hcompile
  clear hcompile
  obtain ⟨entries⟩ := compiled
  replace hentries : List.Forall₂ (CompilesEntry lib) schema entries := hentries
  induction hentries with
  | nil => rfl
  | @cons raw entry rest entries hentry _ ih =>
      obtain ⟨hnames, hrest⟩ := List.forall_mem_cons.mp htext
      rw [inquiries, List.flatMap_cons, entryInquiries_eq hnames hentry]
      exact congrArg _ (ih hrest)

end RawSchema

/-! ## The calls -/

namespace Library

variable {source : SchemaSource} {schema : Schema}

/-- What a validation asks is listed from the schema and the fields, whatever the answers are; for a
raw schema it can be read off without compiling it. There is a report exactly if all inquiries are
answered, and then all calls were made, in order. If one is not answered and those before it are, the
calls up to and including it were made, and its failure is that of the validation. -/
theorem validate_calls_in_order (hlib : lib.AddsFunctions) (hcompile : lib.compile source = .ok schema)
    (s : Surroundings) (items : Mapping) :
    let inquiries := schema.inquiries lib items
    let run := lib.validate s (.mapping items) source
    (∀ raw, source = .raw (.mapping raw) → RawSchema.HasTextNames (.mapping raw) →
      inquiries = RawSchema.inquiries lib items raw) ∧
    ((∃ report, run.result = .ok report) ↔ ∀ i ∈ inquiries, i.IsAnswered s items) ∧
    (∀ report, run.result = .ok report → run.calls = Inquiry.calls inquiries) ∧
    (∀ before i after failure, inquiries = before ++ i :: after →
      (∀ b ∈ before, b.IsAnswered s items) → i.answer s items = .error failure →
      run = ⟨Inquiry.calls before ++ i.call?.toList, .error failure⟩) := by
  intro inquiries run
  have hmade : List.Forall₂ (Inquiry.IsMadeBy s items) inquiries (schema.trials s lib items) :=
    Schema.inquiries_made hlib.isUsable (hlib.isUsable.knows_of_compile hcompile)
  have hanswered := Inquiry.forall_isAnswered_iff hmade
  refine ⟨?_, ?_, ?_, ?_⟩
  · rintro raw rfl htext
    exact (RawSchema.inquiries_eq htext hcompile).symm
  · rw [← hanswered]
    constructor
    · rintro ⟨report, hreport⟩
      exact ((validate_result_eq_ok_iff hcompile).mp hreport).1
    · intro hall
      exact ⟨_, congrArg Run.result (validate_of_answered hcompile hall)⟩
  · intro report hreport
    obtain ⟨hall, -⟩ := (validate_result_eq_ok_iff hcompile).mp hreport
    rw [← Inquiry.calls_eq_of_isMadeBy hmade]
    exact congrArg Run.calls (validate_of_answered hcompile hall)
  · intro before i after failure hsplit hbefore hfailure
    rw [hsplit] at hmade
    obtain ⟨trials, t, later, htrials, hfirst, hit⟩ := exists_split_of_forall₂ hmade
    have hearlier : ∀ b ∈ trials, b.IsAnswered := (Inquiry.forall_isAnswered_iff hfirst).mpr hbefore
    have hrun : run = ⟨Trial.calls trials ++ t.passed.calls, .error failure⟩ :=
      validate_of_failure hcompile htrials hearlier (hit.result_of_failure hfailure)
    rw [hrun, Inquiry.calls_eq_of_isMadeBy hfirst, hit.calls_eq]

/-- A schema with functions in all three places, and a built-in check between them. -/
def calledSchema : Mapping :=
  [(.text "terms", .function 1),
    (.text "age", .mapping [(.text "required", .bool true), (.text "even", .list [.int 2]),
      (.text "odd", .function 2)])]

/-- The fields that the schema is used on. -/
def calledFields : Mapping := [(.text "age", .int 17)]

/-- Functions that say no, except for the one under the added kind. -/
def evenAnswers (result : Except Failure Value) : Surroundings where
  answer f _ := if f = 0 then result else .ok (.bool false)
  today := Surroundings.silent.today
  stack := Surroundings.silent.stack

/-- Where all functions say no, all are called. Where the one under the added kind gives up, it is the
last that is called. -/
theorem calls_calledSchema :
    ((withEven 0).validate (evenAnswers (.ok (.bool false))) (.mapping calledFields)
      (.raw (.mapping calledSchema))).calls =
      [⟨1, [.null, .mapping calledFields]⟩,
        ⟨0, [.int 17, .list [.int 2], .mapping calledFields]⟩,
        ⟨2, [.int 17, .mapping calledFields]⟩] ∧
    (withEven 0).validate (evenAnswers (.error (.raised (.text "odd")))) (.mapping calledFields)
      (.raw (.mapping calledSchema)) =
      ⟨[⟨1, [.null, .mapping calledFields]⟩,
        ⟨0, [.int 17, .list [.int 2], .mapping calledFields]⟩], .error (.raised (.text "odd"))⟩ := by
  have hcompile : (withEven 0).compile (.raw (.mapping calledSchema)) =
      .ok ⟨[.custom "terms" 1, .ruleSet "age" [.flag "required" true,
        .options "even" (.list [.int 2]), .inline "odd" 2]]⟩ := rfl
  constructor
  · obtain ⟨-, -, hcalls, -⟩ := validate_calls_in_order (addsFunctions_withEven 0) hcompile
      (evenAnswers (.ok (.bool false))) calledFields
    rw [hcalls ⟨[⟨"terms", "custom"⟩, ⟨"age", "even"⟩, ⟨"age", "odd"⟩], true⟩ rfl]
    rfl
  · obtain ⟨-, -, -, hends⟩ := validate_calls_in_order (addsFunctions_withEven 0) hcompile
      (evenAnswers (.error (.raised (.text "odd")))) calledFields
    rw [hends [.function ⟨1, [.null, .mapping calledFields]⟩,
        .builtin .required (.int 17) (.bool true)]
      (.function ⟨0, [.int 17, .list [.int 2], .mapping calledFields]⟩)
      [.function ⟨2, [.int 17, .mapping calledFields]⟩] (.raised (.text "odd")) rfl ?_ rfl]
    · rfl
    · simp only [List.forall_mem_cons]
      exact ⟨⟨_, rfl⟩, ⟨_, rfl⟩, by simp⟩

end Library

end FieldRules
