import FieldRules.Proofs.SchemaFaults

/-!
# Schemas compiled beforehand

A schema may be compiled once and used again and again, also by another library than the one that
compiled it. A compiled schema is not compiled again: it is only looked through for rules of unknown
kinds. That is enough. If its rules come without functions of their own, all that a library ever
decides when it compiles is which kinds it knows, and what it would have compiled the raw schema to is
what it is given. Then nothing of the first library is left in it.

A rule that comes with a function is another matter between two libraries, since to one it may be
a rule of its own and to the other the options of a check. For a single library this makes no
difference.

## Main definitions

* `RawSchema.HasNoInlineFunctions` — schemas none of whose rules comes with a function
* `Library.unlessFault` — a result unless a fault was found

## Main statements

* `Library.compile_compiled_eq_compile_raw` — to take over is to compile
* `Library.validate_precompiled_eq` — one library, a schema compiled beforehand
* `Library.validate_compiled_elsewhere_eq` — two libraries
-/

namespace FieldRules

namespace RawSchema

/-- No rule comes with a function. A function in place of all rules of a field is none of a rule. -/
def HasNoInlineFunctions : Value → Prop
  | .mapping entries => ∀ entry ∈ entries, ∀ rules : Mapping, entry.2 = .mapping rules →
    ∀ rule ∈ rules, ∀ f, rule.2 ≠ .function f
  | _ => True

end RawSchema

namespace Library

variable {lib lib' : Library}

/-- A result unless a fault was found. -/
def unlessFault {α : Type} (a : α) : Option SchemaFault → Except Failure α
  | none => .ok a
  | some fault => .error (.schema fault)

/-- The first fault of two results one after the other is that of the first, or else that of the
second. -/
theorem cons_unlessFault {α : Type} (a : α) (as : List α) (fault? faults? : Option SchemaFault) :
    (do let a ← unlessFault a fault?; let as ← unlessFault as faults?; return a :: as) =
      unlessFault (a :: as) (fault?.or faults?) := by
  cases fault? <;> cases faults? <;> rfl

theorem verify_eq_unlessFault (schema : Schema) :
    lib.verify schema = unlessFault schema (schema.entries.findSome? lib.unknownRule?) := by
  unfold verify
  cases schema.entries.findSome? lib.unknownRule? <;> rfl

/-- The fault of a compiled rule of a field that a library does not know. -/
def unknownKind? (lib : Library) (field : String) (rule : Rule) : Option SchemaFault :=
  if lib.knows rule then none else some (.unknownKind (.text field) (.text rule.kind))

theorem unknownRule?_ruleSet (field : String) (rules : List Rule) :
    lib.unknownRule? (.ruleSet field rules) = rules.findSome? (lib.unknownKind? field) := by
  simp only [unknownRule?, Entry.ruleList, Entry.field]
  induction rules with
  | nil => rfl
  | cons rule rest ih => cases h : lib.knows rule <;> simp [unknownKind?, h, ih]

/-- A rule without a function that is compiled asks for its kind to be known, and nothing else. -/
theorem knows_eq_contains {kind : String} {value : Value} {rule : Rule}
    (hrule : CompilesRule lib (.text kind, value) rule) (hvalue : ∀ f, value ≠ .function f)
    (lib' : Library) : rule.kind = kind ∧ lib'.knows rule = lib'.contains (.text kind) := by
  cases hrule with
  | inline => exact absurd rfl (hvalue _)
  | flag _ htext | options _ htext =>
      obtain rfl := Except.ok.inj htext
      exact ⟨rfl, rfl⟩

/-- What a known kind is compiled to does not depend on the library. -/
theorem CompilesRule.of_contains {key value : Value} {rule : Rule}
    (hrule : CompilesRule lib (key, value) rule) (hvalue : ∀ f, value ≠ .function f)
    (hknown : lib'.contains key = true) : CompilesRule lib' (key, value) rule := by
  cases hrule with
  | inline => exact absurd rfl (hvalue _)
  | flag _ htext => exact .flag hknown htext
  | options _ htext hother => exact .options hknown htext hother

theorem compileRule_of_not_contains {field key value : Value} (hvalue : ∀ f, value ≠ .function f)
    (hunknown : lib.contains key = false) :
    lib.compileRule field key value = .error (.schema (.unknownKind field key)) := by
  cases value with
  | function f => exact absurd rfl (hvalue f)
  | _ => simp [compileRule, hunknown]

/-- A rule without a function that one library compiled is what another one would compile, if it
knows the kind. -/
theorem compileRule_eq_of_compilesRule {field kind : String} {value : Value} {rule : Rule}
    (hrule : CompilesRule lib (.text kind, value) rule) (hvalue : ∀ f, value ≠ .function f) :
    lib'.compileRule (.text field) (.text kind) value =
      unlessFault rule (lib'.unknownKind? field rule) := by
  obtain ⟨hkind, hknows⟩ := knows_eq_contains hrule hvalue lib'
  -- The kind is a text, so the compiled rule is named by it and the faults are the same.
  rw [unknownKind?, hknows, hkind]
  cases hknown : lib'.contains (.text kind) with
  | true => exact (compileRule_eq_ok_iff _ _ _ _).mpr (hrule.of_contains hvalue hknown)
  | false => exact compileRule_of_not_contains hvalue hknown

theorem compileRules_eq_of_compilesRule {field : String} {raw : Mapping} {rules : List Rule}
    (hrules : List.Forall₂ (CompilesRule lib) raw rules)
    (htext : RawSchema.HasTextKinds (.mapping raw))
    (hvalues : ∀ rule ∈ raw, ∀ f, rule.2 ≠ .function f) :
    lib'.compileRules (.text field) raw =
      unlessFault rules (rules.findSome? (lib'.unknownKind? field)) := by
  induction hrules with
  | nil => rfl
  | @cons given rule raw rules hrule hrest ih =>
      obtain ⟨key, value⟩ := given
      obtain ⟨⟨kind, rfl⟩, hkinds⟩ := List.forall_mem_cons.mp htext
      obtain ⟨hvalue, hothers⟩ := List.forall_mem_cons.mp hvalues
      rw [compileRules, compileRule_eq_of_compilesRule hrule hvalue, ih hkinds hothers,
        cons_unlessFault, List.findSome?_cons]
      cases lib'.unknownKind? field rule <;> rfl

theorem compileEntry_eq_of_compilesEntry {field : String} {raw : Value} {entry : Entry}
    (hentry : CompilesEntry lib (.text field, raw) entry) (htext : RawSchema.HasTextKinds raw)
    (hvalues : ∀ rules : Mapping, raw = .mapping rules →
      ∀ rule ∈ rules, ∀ f, rule.2 ≠ .function f) :
    lib'.compileEntry (.text field) raw = unlessFault entry (lib'.unknownRule? entry) := by
  cases hentry with
  | custom hname =>
      obtain rfl := Except.ok.inj hname
      rfl
  | @ruleSet _ name rules compiled hname hrules =>
      obtain rfl := Except.ok.inj hname
      rw [unknownRule?_ruleSet, compileEntry,
        compileRules_eq_of_compilesRule hrules htext (hvalues rules rfl)]
      cases compiled.findSome? (lib'.unknownKind? field) <;> rfl

theorem compileEntries_eq_of_compilesEntry {raw : Mapping} {entries : List Entry}
    (hentries : List.Forall₂ (CompilesEntry lib) raw entries)
    (htext : RawSchema.HasTextNames (.mapping raw))
    (hvalues : RawSchema.HasNoInlineFunctions (.mapping raw)) :
    lib'.compileEntries raw = unlessFault entries (entries.findSome? lib'.unknownRule?) := by
  induction hentries with
  | nil => rfl
  | @cons given entry raw entries hentry hrest ih =>
      obtain ⟨key, rules⟩ := given
      obtain ⟨⟨⟨field, rfl⟩, hkinds⟩, hnames⟩ := List.forall_mem_cons.mp htext
      obtain ⟨hvalue, hothers⟩ := List.forall_mem_cons.mp hvalues
      rw [compileEntries, compileEntry_eq_of_compilesEntry hentry hkinds hvalue, ih hnames hothers,
        cons_unlessFault, List.findSome?_cons]
      cases lib'.unknownRule? entry <;> rfl

/-- To take over what another library compiled comes to compiling the raw schema, with the same
faults, if no rule comes with a function. -/
theorem compile_compiled_eq_compile_raw {raw : Value} (htext : RawSchema.HasTextNames raw)
    (hvalues : RawSchema.HasNoInlineFunctions raw) {schema : Schema}
    (hcompile : lib.compile (.raw raw) = .ok schema) :
    lib'.compile (.compiled schema) = lib'.compile (.raw raw) := by
  cases raw with
  | mapping entries =>
      have hentries := (compile_raw_eq_ok_iff entries schema).mp hcompile
      rw [compile, compile, verify_eq_unlessFault,
        compileEntries_eq_of_compilesEntry hentries htext hvalues]
      cases schema.entries.findSome? lib'.unknownRule? <;> rfl
  | _ => cases hcompile

/-- How fields are checked depends on the compiled schema alone. -/
theorem validate_congr {source source' : SchemaSource}
    (h : lib.compile source = lib.compile source') (s : Surroundings) (fields : Value) :
    lib.validate s fields source = lib.validate s fields source' := by
  simp only [validate, h]

/-! ## One library -/

/-- A schema compiled beforehand is checked as the raw one is, with the same calls and the same
failures; and what a library compiled it takes over as it is. -/
theorem validate_precompiled_eq (hlib : lib.AddsFunctions) (raw : Value) :
    (∀ s fields, (do
        let schema ← Run.ofResult (lib.compile (.raw raw))
        lib.validate s fields (.compiled schema)) = lib.validate s fields (.raw raw)) ∧
      ∀ source schema, lib.compile source = .ok schema →
        lib.compile (.compiled schema) = .ok schema := by
  have htaken : ∀ source schema, lib.compile source = .ok schema →
      lib.compile (.compiled schema) = .ok schema :=
    fun source schema => hlib.isUsable.compile_compiled
  refine ⟨fun s fields => ?_, htaken⟩
  cases hcompile : lib.compile (.raw raw) with
  | error failure => exact (validate_of_compile_error hcompile fields).symm
  | ok schema =>
      calc (do
          let schema ← Run.ofResult (.ok schema)
          lib.validate s fields (.compiled schema))
        _ = lib.validate s fields (.compiled schema) := pure_bind schema _
        _ = lib.validate s fields (.raw raw) :=
          validate_congr ((htaken _ _ hcompile).trans hcompile.symm) s fields

/-- The built-in checks and a function added under one name. -/
def withEven (f : FunctionId) : Library :=
  standard.add [(.text "even", .function f)]

theorem addsFunctions_withEven (f : FunctionId) : (withEven f).AddsFunctions :=
  ⟨[(.text "even", .function f)], by simp, rfl⟩

/-- A schema with functions in three places: for a field, as the options of a known kind, and for
a rule whose kind is no text but is written like the known one. -/
def threeFunctions : Value :=
  .mapping [(.text "terms", .function 1),
    (.text "age", .mapping [(.text "even", .function 2), (.bytes [101, 118, 101, 110], .function 3),
      (.text "required", .bool true)])]

/-- Functions of which only the third says no. -/
def onlyThirdRefuses : Surroundings where
  answer f _ := .ok (.bool (f != 3))
  today := Surroundings.silent.today
  stack := Surroundings.silent.stack

/-- The rule of the unknown kind is compiled to one that is named like a known kind, and is checked
as one with a function of its own all the same. -/
theorem validate_threeFunctions_precompiled :
    (do
      let schema ← Run.ofResult ((withEven 0).compile (.raw threeFunctions))
      (withEven 0).validate onlyThirdRefuses (.mapping []) (.compiled schema)).result =
        .ok ⟨[⟨"age", "even"⟩, ⟨"age", "required"⟩], true⟩ := by
  rw [(validate_precompiled_eq (addsFunctions_withEven 0) threeFunctions).1]
  rfl

/-! ## Two libraries -/

/-- A library checks by a schema that another one compiled as it does by the raw schema, with the
same calls and the same failures, if no rule comes with a function. -/
theorem validate_compiled_elsewhere_eq {raw : Value} (htext : RawSchema.HasTextNames raw)
    (hvalues : RawSchema.HasNoInlineFunctions raw) {schema : Schema}
    (hcompile : lib.compile (.raw raw) = .ok schema) (lib' : Library) (s : Surroundings)
    (fields : Value) :
    lib'.validate s fields (.compiled schema) = lib'.validate s fields (.raw raw) :=
  validate_congr (compile_compiled_eq_compile_raw htext hvalues hcompile) s fields

/-- A schema with a function for a whole field and rules of a built-in kind and of an added one. -/
def sharedSchema : Value :=
  .mapping [(.text "terms", .function 1),
    (.text "age", .mapping [(.text "required", .bool true), (.text "even", .bool false)])]

theorem hasTextNames_sharedSchema : RawSchema.HasTextNames sharedSchema := by
  simp only [sharedSchema, RawSchema.HasTextNames, RawSchema.HasTextKinds,
    List.forall_mem_cons, Value.text.injEq, exists_eq', true_and, and_true]
  simp

theorem hasNoInlineFunctions_sharedSchema : RawSchema.HasNoInlineFunctions sharedSchema := by
  simp only [sharedSchema, RawSchema.HasNoInlineFunctions, List.forall_mem_cons,
    Value.mapping.injEq, forall_eq']
  simp

/-- What a library with the added kind compiles the shared schema to. -/
def sharedCompiled : Schema :=
  ⟨[.custom "terms" 1, .ruleSet "age" [.flag "required" true, .flag "even" false]]⟩

theorem compile_sharedSchema : (withEven 0).compile (.raw sharedSchema) = .ok sharedCompiled := rfl

/-- A library that lacks the added kind refuses the compiled schema at that rule; one that has
another function under it checks by this function. -/
theorem validate_sharedCompiled_elsewhere :
    (∀ s fields, standard.validate s fields (.compiled sharedCompiled) =
      .fail (.schema (.unknownKind (.text "age") (.text "even")))) ∧
    ((withEven 3).validate onlyThirdRefuses (.mapping []) (.compiled sharedCompiled)).result =
      .ok ⟨[⟨"age", "required"⟩], true⟩ := by
  refine ⟨fun s fields => ?_, ?_⟩
  · rw [validate_compiled_elsewhere_eq hasTextNames_sharedSchema hasNoInlineFunctions_sharedSchema
      compile_sharedSchema]
    rfl
  · rw [validate_compiled_elsewhere_eq hasTextNames_sharedSchema hasNoInlineFunctions_sharedSchema
      compile_sharedSchema]
    rfl

end Library

end FieldRules
