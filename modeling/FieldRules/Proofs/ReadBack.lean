import FieldRules.Proofs.SchemaFaults
import Mathlib.Data.List.Nodup

/-!
# Compiled schemas read back

Compiling decides what each rule is and throws nothing away. A compiled schema can be written out as
a raw one: a flag as its truth value, a rule with a function of its own as that function, options as
they are, a field checked by one function as that function, and the rules of a field as a mapping from
their kinds. What comes out is the schema that went in, whatever library compiled it, with all its
fields and rules in their order and every value untouched. A value that is merely equal to a truth value
is options therefore, and is written out as what it was.

Fields are found in the compiled schema where they are keys of the raw one, and nowhere else.

## Main definitions

* `Rule.written`, `Entry.written`, `Schema.written` — rules, entries and schemas as raw ones
* `Rule.IsFlag`, `Rule.IsOptions` — the sorts of rules, beside those with a function of their own

## Main statements

* `Schema.written_eq` — a compiled schema is written out as the raw one
* `Schema.entry?_eq_none_iff`, `Schema.entry?_eq_some` — the entries of fields
* `Library.CompilesRule.sort_iff` — which sort a rule is
* `Library.compile_loses_nothing` — all of this together
-/

namespace FieldRules

/-! ## Schemas written out -/

namespace Rule

/-- A rule as it stands in a raw schema: its kind and its value. -/
def written : Rule → Value × Value
  | .flag kind expected => (.text kind, .bool expected)
  | .inline kind f => (.text kind, .function f)
  | .options kind given => (.text kind, given)

/-- The rule is a flag. -/
def IsFlag (rule : Rule) : Prop :=
  ∃ kind expected, rule = .flag kind expected

/-- The rule has options for a check. -/
def IsOptions (rule : Rule) : Prop :=
  ∃ kind given, rule = .options kind given

end Rule

/-- An entry as it stands in a raw schema: its field, and its function or the mapping of its rules. -/
def Entry.written : Entry → Value × Value
  | .custom field f => (.text field, .function f)
  | .ruleSet field rules => (.text field, .mapping (rules.map Rule.written))

/-- A compiled schema as a raw one. -/
def Schema.written (schema : Schema) : Value :=
  .mapping (schema.entries.map Entry.written)

namespace Library

variable {lib : Library}

theorem CompilesRule.written_eq {raw : Value × Value} {rule : Rule}
    (htext : ∃ kind, raw.1 = .text kind) (hrule : CompilesRule lib raw rule) : raw = rule.written := by
  obtain ⟨name, hname⟩ := htext
  cases hrule with
  | flag _ htext | options _ htext | inline _ htext =>
      obtain rfl := hname
      obtain rfl := Except.ok.inj htext
      rfl

theorem CompilesEntry.written_eq {raw : Value × Value} {entry : Entry}
    (htext : (∃ field, raw.1 = .text field) ∧ RawSchema.HasTextKinds raw.2)
    (hentry : CompilesEntry lib raw entry) : raw = entry.written := by
  obtain ⟨⟨name, hname⟩, hkinds⟩ := htext
  cases hentry with
  | custom hfield =>
      obtain rfl := hname
      obtain rfl := Except.ok.inj hfield
      rfl
  | @ruleSet key field rules compiled hfield heach =>
      obtain rfl : key = .text name := hname
      obtain rfl := Except.ok.inj hfield
      have hrules : rules = compiled.map Rule.written := by
        rw [← List.forall₂_eq_eq_eq, List.forall₂_map_right_iff]
        exact ((List.forall₂_and_left _ _).mpr ⟨hkinds, heach⟩).imp fun _ _ h =>
          CompilesRule.written_eq h.1 h.2
      rw [Entry.written, hrules]

/-- Which sort a rule is compiled to depends on its kind and its value alone. -/
theorem CompilesRule.sort_iff {key value : Value} {rule : Rule}
    (hrule : CompilesRule lib (key, value) rule) :
    (rule.IsInline ↔ lib.contains key = false) ∧
    (rule.IsFlag ↔ lib.contains key = true ∧ ∃ b, value = .bool b) ∧
    (rule.IsOptions ↔ lib.contains key = true ∧ ∀ b, value ≠ .bool b) := by
  cases hrule with
  | flag hknown _ => simp [Rule.IsInline, Rule.IsFlag, Rule.IsOptions, hknown]
  | options hknown _ hother => simp [Rule.IsInline, Rule.IsFlag, Rule.IsOptions, hknown, hother]
  | inline hunknown _ => simp [Rule.IsInline, Rule.IsFlag, Rule.IsOptions, hunknown]

end Library

/-! ## The entries of fields -/

theorem Entry.written_fst (entry : Entry) : entry.written.1 = .text entry.field := by
  cases entry <;> rfl

namespace Schema

variable {schema : Schema}

/-- A field has no entry exactly if it is none of the schema. -/
theorem entry?_eq_none_iff {key : Value} :
    schema.entry? key = none ↔ key ∉ schema.fields.map Value.text := by
  unfold entry?
  simp only [List.find?_eq_none, Value.same_text_left_iff, fields, List.map_map,
    List.mem_map, not_exists, not_and, Function.comp_apply]
  exact forall₂_congr fun _ _ => ⟨fun h hkey => h hkey.symm, fun h hkey => h hkey.symm⟩

/-- Where no field is repeated, each entry is found under its field. -/
theorem entry?_eq_some (hfields : schema.fields.Nodup) {entry : Entry}
    (hentry : entry ∈ schema.entries) : schema.entry? (.text entry.field) = some entry := by
  cases hfound : schema.entry? (.text entry.field) with
  | none =>
      refine absurd (List.mem_map_of_mem ?_) (entry?_eq_none_iff.mp hfound)
      exact List.mem_map_of_mem hentry
  | some other =>
      have hmem : other ∈ schema.entries := List.mem_of_find?_eq_some hfound
      have hsame : other.field = entry.field := by simpa using List.find?_some hfound
      exact congrArg some (List.inj_on_of_nodup_map hfields hmem hentry hsame)

end Schema

/-! ## Compiling and writing out -/

namespace Library

variable {lib : Library} {raw : Mapping} {schema : Schema}

/-- A compiled schema is written out as the raw one. -/
theorem map_written_eq (htext : RawSchema.HasTextNames (.mapping raw))
    (hcompile : lib.compile (.raw (.mapping raw)) = .ok schema) :
    raw = schema.entries.map Entry.written := by
  have hboth := (List.forall₂_and_left _ _).mpr ⟨htext, (compile_raw_eq_ok_iff raw schema).mp hcompile⟩
  rw [← List.forall₂_eq_eq_eq, List.forall₂_map_right_iff]
  exact hboth.imp fun _ _ h => CompilesEntry.written_eq h.1 h.2

/-- Each entry of a compiled schema is what its raw form is compiled to. -/
theorem compilesEntry_written (htext : RawSchema.HasTextNames (.mapping raw))
    (hcompile : lib.compile (.raw (.mapping raw)) = .ok schema) :
    ∀ entry ∈ schema.entries, CompilesEntry lib entry.written entry := by
  refine forall_mem_right_of_forall₂ ((compile_raw_eq_ok_iff raw schema).mp hcompile) ?_
  intro given hgiven entry hentry
  rwa [← hentry.written_eq (htext given hgiven)]

/-- So is each rule. -/
theorem CompilesEntry.compilesRule_written {entry : Entry}
    (hentry : CompilesEntry lib entry.written entry) :
    ∀ rule ∈ entry.ruleList, CompilesRule lib rule.written rule := by
  cases entry with
  | custom field f => simp [Entry.ruleList]
  | ruleSet field rules =>
      cases hentry with
      | ruleSet _ heach =>
          rw [List.forall₂_map_left_iff, List.forall₂_same] at heach
          exact heach

/-- A compiled schema is written out as the raw schema that it was compiled from, with the same
fields, rules and values in the same order. Its fields are the keys of the raw schema, none repeated;
each has the entry that its own raw rules are compiled to, and no other value has an entry. A rule
has a function of its own exactly if its kind is unknown; a known kind is a flag where its value is
one of the two truth values, and has options for a check otherwise. -/
theorem compile_loses_nothing (htext : RawSchema.HasTextNames (.mapping raw))
    (hkeys : (Mapping.keys raw).Nodup) (hcompile : lib.compile (.raw (.mapping raw)) = .ok schema) :
    schema.written = .mapping raw ∧
    schema.fields.map Value.text = Mapping.keys raw ∧ schema.fields.Nodup ∧
    (∀ key, schema.entry? key = none ↔ key ∉ Mapping.keys raw) ∧
    (∀ key rules, (key, rules) ∈ raw →
      ∃ entry, schema.entry? key = some entry ∧ lib.compileEntry key rules = .ok entry) ∧
    ∀ entry ∈ schema.entries, ∀ rule ∈ entry.ruleList, ∀ key value, rule.written = (key, value) →
      (rule.IsInline ↔ lib.contains key = false) ∧
      (rule.IsFlag ↔ lib.contains key = true ∧ ∃ b, value = .bool b) ∧
      (rule.IsOptions ↔ lib.contains key = true ∧ ∀ b, value ≠ .bool b) := by
  have hraw : raw = schema.entries.map Entry.written := map_written_eq htext hcompile
  have hfields : schema.fields.map Value.text = Mapping.keys raw := by
    rw [hraw, Mapping.keys, Schema.fields, List.map_map, List.map_map]
    exact List.map_congr_left fun entry _ => entry.written_fst.symm
  have hnodup : schema.fields.Nodup := by
    rw [← hfields] at hkeys
    exact List.Nodup.of_map Value.text hkeys
  have hentries := compilesEntry_written htext hcompile
  refine ⟨congrArg Value.mapping hraw.symm, hfields, hnodup, ?_, ?_, ?_⟩
  · intro key
    rw [Schema.entry?_eq_none_iff, hfields]
  · intro key rules hmem
    rw [hraw] at hmem
    obtain ⟨entry, hentry, hwritten⟩ := List.mem_map.mp hmem
    have hkey : .text entry.field = key := by rw [← entry.written_fst, hwritten]
    refine ⟨entry, ?_, ?_⟩
    · rw [← hkey]
      exact Schema.entry?_eq_some hnodup hentry
    · rw [compileEntry_eq_ok_iff, ← hwritten]
      exact hentries entry hentry
  · intro entry hentry rule hrule key value hwritten
    have hcompiled := (hentries entry hentry).compilesRule_written rule hrule
    rw [hwritten] at hcompiled
    exact hcompiled.sort_iff

/-- A schema with values that are easily taken for others: one and zero in place of truth values, a
function under a known kind, and no options at all. -/
def deceptiveSchema : Mapping :=
  [(.text "age", .mapping [(.text "required", .int 1), (.text "max", .function 2),
      (.text "min", .null), (.text "number", .bool false), (.text "odd", .function 3)]),
    (.text "terms", .function 1)]

/-- The number is not taken for a flag, nor the function for one in place of a check; and a field
that the schema does not have has no entry. -/
theorem compile_deceptiveSchema :
    ∃ schema, standard.compile (.raw (.mapping deceptiveSchema)) = .ok schema ∧
      schema.written = .mapping deceptiveSchema ∧
      schema.entry? (.text "age") = some (.ruleSet "age" [.options "required" (.int 1),
        .options "max" (.function 2), .options "min" .null, .flag "number" false,
        .inline "odd" 3]) ∧
      schema.entry? (.text "name") = none := by
  have hcompile : standard.compile (.raw (.mapping deceptiveSchema)) =
      .ok ⟨[.ruleSet "age" [.options "required" (.int 1), .options "max" (.function 2),
        .options "min" .null, .flag "number" false, .inline "odd" 3], .custom "terms" 1]⟩ := rfl
  have htext : RawSchema.HasTextNames (.mapping deceptiveSchema) := by
    simp only [deceptiveSchema, RawSchema.HasTextNames, RawSchema.HasTextKinds,
      List.forall_mem_cons, Value.text.injEq, exists_eq', true_and]
    simp
  have hkeys : (Mapping.keys deceptiveSchema).Nodup := by simp [deceptiveSchema]
  obtain ⟨hwritten, -, -, hnone, hsome, -⟩ := compile_loses_nothing htext hkeys hcompile
  refine ⟨_, hcompile, hwritten, ?_, ?_⟩
  · obtain ⟨entry, hentry, hcompiled⟩ := hsome (.text "age") _ List.mem_cons_self
    rw [hentry, ← Except.ok.inj hcompiled]
  · rw [hnone]
    simp [deceptiveSchema]

end Library

end FieldRules
