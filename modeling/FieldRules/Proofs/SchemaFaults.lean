import FieldRules.Proofs.AddedChecks
import FieldRules.Proofs.RawSchemas
import FieldRules.Proofs.Trials

/-!
# Faults of schemas

A schema is looked at before any value is. If something is wrong with it, nothing is asked at all: the
fault is the same whatever the fields are and whatever the functions would answer. If nothing is wrong
with it, no rule is met later that the library has no check for, although compiling and evaluating
look kinds up in different ways.

## Main statements

* `Library.IsUsable.knows_of_compile` — a compiled schema has rules the library knows
* `Library.IsUsable.exists_call_of_validate_eq_schema_error` — later faults are those of functions
* `Library.refused_at_first_offence` — a raw schema is refused at its first offence, and for no other
  reason
-/

namespace FieldRules

/-- What a relation between lists says of the members of the second one. -/
theorem forall_mem_right_of_forall₂ {α β : Type} {R : α → β → Prop} {Q : β → Prop} {as : List α}
    {bs : List β} (h : List.Forall₂ R as bs) (hQ : ∀ a ∈ as, ∀ b, R a b → Q b) : ∀ b ∈ bs, Q b := by
  induction h with
  | nil => simp
  | cons hab _ ih =>
      obtain ⟨ha, has⟩ := List.forall_mem_cons.mp hQ
      exact List.forall_mem_cons.mpr ⟨ha _ hab, ih has⟩

/-- What is related to a list with an item at some place has an item there that is related to it. -/
theorem exists_split_of_forall₂ {α β : Type} {R : α → β → Prop} {before after : List α} {a : α}
    {bs : List β} (h : List.Forall₂ R (before ++ a :: after) bs) :
    ∃ before' b after', bs = before' ++ b :: after' ∧ List.Forall₂ R before before' ∧ R a b := by
  induction before generalizing bs with
  | nil =>
      obtain ⟨b, after', hab, -, rfl⟩ := List.forall₂_cons_left_iff.mp h
      exact ⟨[], b, after', rfl, .nil, hab⟩
  | cons c rest ih =>
      obtain ⟨d, ds, hcd, hrest, rfl⟩ := List.forall₂_cons_left_iff.mp h
      obtain ⟨before', b, after', rfl, hbefore, hab⟩ := ih hrest
      exact ⟨d :: before', b, after', rfl, .cons hcd hbefore, hab⟩

/-- Each member of a list has one that it is related to. -/
theorem exists_mem_right_of_forall₂ {α β : Type} {R : α → β → Prop} {as : List α} {bs : List β}
    (h : List.Forall₂ R as bs) {a : α} (ha : a ∈ as) : ∃ b ∈ bs, R a b := by
  obtain ⟨before, after, rfl⟩ := List.append_of_mem ha
  obtain ⟨before', b, after', rfl, -, hab⟩ := exists_split_of_forall₂ h
  exact ⟨b, by simp, hab⟩

namespace Library

variable {lib : Library} {s : Surroundings} {items : Mapping}

/-! ## Rules that are known -/

theorem IsUsable.knows_of_compilesRule (h : lib.IsUsable) {raw : Value × Value} {rule : Rule}
    (hrule : CompilesRule lib raw rule) : lib.knows rule = true := by
  have htext : ∀ {key : Value} {kind : String}, lib.contains key = true →
      nameIn "rule_kind" key = .ok kind → lib.contains (.text kind) = true := by
    intro key kind hknown hname
    obtain ⟨name, rfl⟩ := h.exists_text_of_contains hknown
    obtain rfl : name = kind := by simpa using hname
    exact hknown
  cases hrule with
  | flag hknown hname => exact htext hknown hname
  | options hknown hname => exact htext hknown hname
  | inline => rfl

/-- A compiled schema is taken over as it is, if all its rules are known. -/
theorem compile_compiled_eq_ok_iff {schema schema' : Schema} :
    lib.compile (.compiled schema) = .ok schema' ↔
      schema = schema' ∧ ∀ entry ∈ schema.entries, ∀ rule ∈ entry.ruleList,
        lib.knows rule = true := by
  have hnone : schema.entries.findSome? lib.unknownRule? = none ↔
      ∀ entry ∈ schema.entries, ∀ rule ∈ entry.ruleList, lib.knows rule = true := by
    simp [List.findSome?_eq_none_iff, unknownRule?]
  rw [← hnone]
  cases hfault : schema.entries.findSome? lib.unknownRule? <;> simp [compile, verify, hfault]

/-- A library knows all rules of the schemas that it compiles, and of those that it takes over. -/
theorem IsUsable.knows_of_compile (h : lib.IsUsable) {source : SchemaSource} {schema : Schema}
    (hcompile : lib.compile source = .ok schema) :
    ∀ entry ∈ schema.entries, ∀ rule ∈ entry.ruleList, lib.knows rule = true := by
  cases source with
  | compiled given =>
      obtain ⟨rfl, hknows⟩ := compile_compiled_eq_ok_iff.mp hcompile
      exact hknows
  | raw value =>
      cases value with
      | mapping entries =>
          refine forall_mem_right_of_forall₂ ((compile_raw_eq_ok_iff ..).mp hcompile) ?_
          rintro _ - _ (_ | ⟨-, heach⟩)
          · simp [Entry.ruleList]
          · exact forall_mem_right_of_forall₂ heach fun _ _ _ => h.knows_of_compilesRule
      | _ => simp [compile] at hcompile

/-- What a library compiled it takes over. -/
theorem IsUsable.compile_compiled (h : lib.IsUsable) {source : SchemaSource} {schema : Schema}
    (hcompile : lib.compile source = .ok schema) : lib.compile (.compiled schema) = .ok schema :=
  compile_compiled_eq_ok_iff.mpr ⟨rfl, h.knows_of_compile hcompile⟩

/-- For a rule that is known, and has no function of its own, there is a check. -/
theorem IsUsable.exists_check?_of_knows (h : lib.IsUsable) {rule : Rule}
    (hknows : lib.knows rule = true) (hrule : ¬ rule.IsInline) :
    ∃ check, lib.check? (.text rule.kind) = some check ∧ check.IsUsable := by
  have hcontains : lib.contains (.text rule.kind) = true := by
    cases rule with
    | inline kind f => exact absurd ⟨kind, f, rfl⟩ hrule
    | _ => exact hknows
  rw [h.contains_eq_isSome_check?] at hcontains
  obtain ⟨check, hcheck⟩ := Option.isSome_iff_exists.mp hcontains
  exact ⟨check, hcheck, h.isUsable_of_check? hcheck⟩

/-! ## Faults that show later -/

/-- Where a known rule finds fault with a schema, a function did. -/
theorem IsUsable.exists_call_of_passes_eq_schema_error (h : lib.IsUsable) {rule : Rule}
    (hknows : lib.knows rule = true) {value : Value} {fault : SchemaFault}
    (hresult : (lib.passes s (.mapping items) value rule).result = .error (.schema fault)) :
    ∃ call ∈ (lib.passes s (.mapping items) value rule).calls,
      s.answer call.function call.arguments = .error (.schema fault) := by
  by_cases hrule : rule.IsInline
  · obtain ⟨kind, f, rfl⟩ := hrule
    rw [passes_inline] at hresult ⊢
    exact ⟨_, List.mem_singleton_self _, map_eq_error_iff.mp hresult⟩
  · obtain ⟨check, hcheck, husable⟩ := h.exists_check?_of_knows hknows hrule
    rw [passes_of_check? hrule hcheck] at hresult ⊢
    exact Check.exists_call_of_run_eq_schema_error husable (map_eq_error_iff.mp hresult)

/-- Where a trial of known rules finds fault with a schema, a function did. -/
theorem IsUsable.exists_call_of_trial_eq_schema_error (h : lib.IsUsable) {entry : Entry}
    (hknows : ∀ rule ∈ entry.ruleList, lib.knows rule = true) {t : Trial}
    (ht : t ∈ entry.trials s lib items) {fault : SchemaFault}
    (hresult : t.passed.result = .error (.schema fault)) :
    ∃ call ∈ t.passed.calls, s.answer call.function call.arguments = .error (.schema fault) := by
  cases entry with
  | custom field f =>
      obtain rfl := List.mem_singleton.mp ht
      simp only [passesCustom_eq] at hresult ⊢
      exact ⟨_, List.mem_singleton_self _, map_eq_error_iff.mp hresult⟩
  | ruleSet field rules =>
      simp only [Entry.trials, List.mem_map] at ht
      obtain ⟨rule, hrule, rfl⟩ := ht
      exact h.exists_call_of_passes_eq_schema_error (hknows rule hrule) hresult

/-- A fault of a schema that shows only after the schema was compiled is that of a function. -/
theorem IsUsable.exists_call_of_validate_eq_schema_error (h : lib.IsUsable) {source : SchemaSource}
    {schema : Schema} (hcompile : lib.compile source = .ok schema) {fields : Value}
    {fault : SchemaFault}
    (hresult : (lib.validate s fields source).result = .error (.schema fault)) :
    ∃ call ∈ (lib.validate s fields source).calls,
      s.answer call.function call.arguments = .error (.schema fault) := by
  by_cases hfields : ∃ items, fields = .mapping items
  · obtain ⟨items, rfl⟩ := hfields
    obtain ⟨t, ht, hfailure, hcalls⟩ := exists_trial_of_validate_error hcompile hresult
    obtain ⟨entry, hentry, ht⟩ := List.mem_flatMap.mp ht
    obtain ⟨call, hcall, hanswer⟩ := h.exists_call_of_trial_eq_schema_error
      (h.knows_of_compile hcompile entry hentry) ht hfailure
    exact ⟨call, hcalls hcall, hanswer⟩
  · have hno : ∀ items, fields ≠ .mapping items := fun items hitems => hfields ⟨items, hitems⟩
    simp only [validate, hcompile, evaluateAll_of_no_mapping hno] at hresult
    split at hresult <;> simp [Run.andThen, Run.fail, Evaluation.start] at hresult

/-! ## Faults that show at once -/

/-- A raw schema is refused for its first offence, whatever the fields and the answers of functions
are; a raw schema without offences is compiled, all its rules have checks, and any fault of a schema
after that is the answer of a function that was called. -/
theorem refused_at_first_offence (hlib : lib.AddsFunctions) {schema : Value}
    (htext : RawSchema.HasTextNames schema) :
    (∀ field? kind? rest, lib.offences schema = (field?, kind?) :: rest →
      ∃ fault : SchemaFault, fault.field? = field? ∧ fault.kind? = kind? ∧
        ∀ s fields, lib.validate s fields (.raw schema) = .fail (.schema fault)) ∧
    (lib.offences schema = [] →
      ∃ compiled, lib.compile (.raw schema) = .ok compiled ∧
        (∀ entry ∈ compiled.entries, ∀ rule ∈ entry.ruleList,
          ¬ rule.IsInline → lib.check? (.text rule.kind) ≠ none) ∧
        ∀ s fields fault,
          (lib.validate s fields (.raw schema)).result = .error (.schema fault) →
          ∃ call ∈ (lib.validate s fields (.raw schema)).calls,
            s.answer call.function call.arguments = .error (.schema fault)) := by
  have husable := hlib.isUsable
  have hmeets : Meets (lib.offences schema) (lib.compile (.raw schema)) :=
    compile_meets_offences htext
  constructor
  · intro field? kind? rest hoffences
    rw [hoffences] at hmeets
    generalize hcompile : lib.compile (.raw schema) = result at hmeets
    cases hmeets with
    | fault fault => exact ⟨fault, rfl, rfl, fun s fields => validate_of_compile_error hcompile fields⟩
  · intro hoffences
    rw [hoffences] at hmeets
    generalize hcompile : lib.compile (.raw schema) = result at hmeets
    cases hmeets with
    | ok compiled =>
        refine ⟨compiled, rfl, ?_, ?_⟩
        · intro entry hentry rule hrule hinline
          obtain ⟨check, hcheck, -⟩ := husable.exists_check?_of_knows
            (husable.knows_of_compile hcompile entry hentry rule hrule) hinline
          simp [hcheck]
        · intro s fields fault hresult
          exact husable.exists_call_of_validate_eq_schema_error hcompile hresult

/-- A schema with two offences, after a function and rules that are in order: a kind that is misspelt,
and rules that are none. -/
def misspeltSchema : Value :=
  .mapping [(.text "terms", .function 1),
    (.text "age", .mapping [(.text "even", .bool true), (.text "notBlank", .function 2),
      (.text "numbr", .bool true)]),
    (.text "name", .int 5)]

/-- The misspelt kind is the one that is reported, whatever the fields are. -/
theorem refused_misspelt :
    ∃ fault : SchemaFault, fault.field? = some (.text "age") ∧ fault.kind? = some (.text "numbr") ∧
      ∀ s fields, (standard.add [(.text "even", .function 0)]).validate s fields
        (.raw misspeltSchema) = .fail (.schema fault) := by
  have hlib : (standard.add [(.text "even", .function 0)]).AddsFunctions :=
    ⟨[(.text "even", .function 0)], by simp, rfl⟩
  have htext : RawSchema.HasTextNames misspeltSchema := by
    simp only [misspeltSchema, RawSchema.HasTextNames, RawSchema.HasTextKinds,
      List.forall_mem_cons, Value.text.injEq, exists_eq', true_and, and_true]
    simp
  exact (refused_at_first_offence hlib htext).1 _ _ [(some (.text "name"), none)] rfl

end Library

end FieldRules
