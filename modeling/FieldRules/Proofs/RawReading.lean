import FieldRules.Proofs.SchemaFaults

/-!
# The findings of a raw schema, read directly

A raw schema can be read without compiling it: go through its fields and their rules, put to each
what it asks, and note the rule if the answer is one that breaks it. What breaks a rule depends on
what stands there. A truth value under a known kind is broken by any answer but itself; all other
rules are broken by the truth value false alone, so no answer that merely counts as false breaks them.

Compiling first and evaluating then comes to the same.

## Main definitions

* `Question` — what a rule asks, and the answers that break it
* `RawSchema.questions` — the questions of a raw schema, in order
* `Question.noted` — the fields and kinds that are noted

## Main statements

* `RawSchema.asks_questions` — the trials of the compiled schema ask the questions of the raw one
* `Library.validate_raw_findings` — the findings are those of the direct reading
-/

namespace FieldRules

/-- What is asked under a kind of a field, and the answers that break the rule. -/
structure Question where
  field : Value
  kind : Value
  asked : Run Value
  breaks : Value → Bool

namespace Question

/-- Whoever is asked answers. -/
def IsAnswered (q : Question) : Prop :=
  ∃ answer, q.asked.result = .ok answer

instance (q : Question) : Decidable q.IsAnswered :=
  match h : q.asked.result with
  | .ok answer => isTrue ⟨answer, h⟩
  | .error _ => isFalse (by simp [IsAnswered, h])

/-- Whether the answer breaks the rule. -/
def isBroken (q : Question) : Bool :=
  match q.asked.result with
  | .ok answer => q.breaks answer
  | .error _ => false

/-- The fields and kinds of the rules that are broken. -/
def noted (questions : List Question) : List (Value × Value) :=
  (questions.filter isBroken).map fun q => (q.field, q.kind)

/-- A trial asks a question: the same is asked, and the value passes unless the answer breaks the
rule. -/
structure IsAskedBy (q : Question) (t : Trial) : Prop where
  field_eq : q.field = .text t.finding.field
  kind_eq : q.kind = .text t.finding.kind
  passed_eq : t.passed = ⟨q.asked.calls, q.asked.result.map fun answer => !q.breaks answer⟩

theorem IsAskedBy.isAnswered {q : Question} {t : Trial} (h : q.IsAskedBy t) (hq : q.IsAnswered) :
    t.IsAnswered := by
  obtain ⟨answer, hanswer⟩ := hq
  exact ⟨!q.breaks answer, by simp [h.passed_eq, hanswer, Except.map]⟩

theorem IsAskedBy.isFailed_eq {q : Question} {t : Trial} (h : q.IsAskedBy t) :
    t.isFailed = q.isBroken := by
  cases hanswer : q.asked.result with
  | error failure => simp [Trial.isFailed, isBroken, h.passed_eq, hanswer, Except.map]
  | ok answer =>
      cases hbreaks : q.breaks answer <;>
        simp [Trial.isFailed, isBroken, h.passed_eq, hanswer, Except.map, hbreaks]

/-- What is noted is named by the findings of the trials that failed. -/
theorem noted_eq_of_isAskedBy {questions : List Question} {trials : List Trial}
    (h : List.Forall₂ IsAskedBy questions trials) :
    (Trial.noted trials).map (fun finding => (Value.text finding.field, Value.text finding.kind)) =
      noted questions := by
  induction h with
  | nil => rfl
  | @cons q t questions trials hqt _ ih =>
      have hfailed := hqt.isFailed_eq
      rw [Trial.noted_cons, List.map_append, ih, hfailed]
      cases hbroken : q.isBroken <;>
        simp [noted, hbroken, hqt.field_eq, hqt.kind_eq]

end Question

namespace RawSchema

variable (s : Surroundings) (lib : Library) (items : Mapping)

/-- What one rule of a field asks of a value. A rule that is an offence asks nothing. -/
def ruleQuestions (field value : Value) (rule : Value × Value) : List Question :=
  if lib.contains rule.1 then
    match rule.2 with
    | .bool flag =>
      [⟨field, rule.1, lib.use s rule.1 value (.bool flag) (.mapping items),
        fun answer => !answer.isBool flag⟩]
    | options =>
      [⟨field, rule.1, lib.use s rule.1 value options (.mapping items),
        fun answer => answer.isBool false⟩]
  else
    match rule.2 with
    | .function f =>
      [⟨field, rule.1, .call s f [value, .mapping items], fun answer => answer.isBool false⟩]
    | _ => []

/-- What is asked of the value of one field, null if the field is missing. -/
def entryQuestions (entry : Value × Value) : List Question :=
  let value := Mapping.getOrNull items entry.1
  match entry.2 with
  | .function f =>
    [⟨entry.1, .text "custom", .call s f [value, .mapping items],
      fun answer => answer.isBool false⟩]
  | .mapping rules => rules.flatMap (ruleQuestions s lib items entry.1 value)
  | _ => []

/-- The questions of a raw schema, field by field and rule by rule. -/
def questions (schema : Mapping) : List Question :=
  schema.flatMap (entryQuestions s lib items)

variable {s lib items}

/-- A check that is there under a name is the one that is used. -/
theorem use_text {kind : String} {check : Check} (hcheck : lib.check? (.text kind) = some check)
    (value options fields : Value) :
    lib.use s (.text kind) value options fields = check.run s value options fields := by
  simp [Library.use, Mapping.asKey, Value.canBeKey, Run.ofResult, hcheck]

open Library in
/-- A known rule without a function of its own asks the check of its kind. -/
theorem isAskedBy_of_knows (hlib : lib.IsUsable) (field : String) (value : Value) {rule : Rule}
    (hknows : lib.knows rule = true) (hinline : ¬ rule.IsInline) :
    Question.IsAskedBy
      ⟨.text field, .text rule.kind,
        lib.use s (.text rule.kind) value rule.given (.mapping items), fun a => !rule.accepts a⟩
      ⟨⟨field, rule.kind⟩, lib.passes s (.mapping items) value rule⟩ := by
  obtain ⟨check, hcheck, -⟩ := hlib.exists_check?_of_knows hknows hinline
  refine ⟨rfl, rfl, ?_⟩
  simp only [passes_of_check? hinline hcheck, use_text hcheck, Bool.not_not]

open Library in
/-- A compiled rule asks what the raw one does. -/
theorem asks_ruleQuestions (hlib : lib.IsUsable) (field : String) (value : Value)
    {raw : Value × Value} {rule : Rule} (htext : ∃ kind, raw.1 = .text kind)
    (hrule : CompilesRule lib raw rule) :
    List.Forall₂ Question.IsAskedBy (ruleQuestions s lib items (.text field) value raw)
      [⟨⟨field, rule.kind⟩, lib.passes s (.mapping items) value rule⟩] := by
  have hknows := hlib.knows_of_compilesRule hrule
  cases hrule with
  | @flag key kind flag hknown hname =>
      obtain ⟨name, rfl⟩ := htext
      obtain rfl : name = kind := by simpa using hname
      simp only [ruleQuestions, hknown, if_true]
      exact .cons (isAskedBy_of_knows hlib field value hknows (by simp [Rule.IsInline])) .nil
  | @options key options kind hknown hname hother =>
      obtain ⟨name, rfl⟩ := htext
      obtain rfl : name = kind := by simpa using hname
      have hquestions : ruleQuestions s lib items (.text field) value (.text name, options) =
          [⟨.text field, .text name, lib.use s (.text name) value options (.mapping items),
            fun answer => !(Rule.options name options).accepts answer⟩] := by
        cases options <;> simp_all [ruleQuestions, Rule.accepts]
      rw [hquestions]
      exact .cons (isAskedBy_of_knows hlib field value hknows (by simp [Rule.IsInline])) .nil
  | @inline key kind f hunknown hname =>
      obtain ⟨name, rfl⟩ := htext
      obtain rfl : name = kind := by simpa using hname
      simp only [ruleQuestions, hunknown, Bool.false_eq_true, if_false]
      exact .cons ⟨rfl, rfl, passes_inline lib name f⟩ .nil

open Library in
/-- A compiled entry asks what the raw one does. -/
theorem asks_entryQuestions (hlib : lib.IsUsable) {raw : Value × Value} {entry : Entry}
    (htext : (∃ field, raw.1 = .text field) ∧ HasTextKinds raw.2)
    (hentry : CompilesEntry lib raw entry) :
    List.Forall₂ Question.IsAskedBy (entryQuestions s lib items raw)
      (entry.trials s lib items) := by
  obtain ⟨⟨name, hname⟩, hkinds⟩ := htext
  cases hentry with
  | @custom key field f hfield =>
      obtain rfl : key = .text name := hname
      obtain rfl : name = field := by simpa using hfield
      simp only [entryQuestions, Entry.trials, List.forall₂_cons, List.forall₂_nil_left_iff,
        and_true]
      exact ⟨rfl, rfl, passesCustom_eq f⟩
  | @ruleSet key field rules compiled hfield heach =>
      obtain rfl : key = .text name := hname
      obtain rfl : name = field := by simpa using hfield
      have hboth := (List.forall₂_and_left _ _).mpr ⟨hkinds, heach⟩
      simp only [entryQuestions, Entry.trials, List.map_eq_flatMap]
      exact List.rel_flatMap hboth fun _ _ h => asks_ruleQuestions hlib name _ h.1 h.2

open Library in
/-- The trials of a compiled schema ask the questions of the raw one, in the same order. -/
theorem asks_questions (hlib : lib.IsUsable) {schema : Mapping} {compiled : Schema}
    (htext : HasTextNames (.mapping schema))
    (hcompile : lib.compile (.raw (.mapping schema)) = .ok compiled) :
    List.Forall₂ Question.IsAskedBy (questions s lib items schema)
      (compiled.trials s lib items) := by
  have hboth := (List.forall₂_and_left _ _).mpr
    ⟨htext, (compile_raw_eq_ok_iff schema compiled).mp hcompile⟩
  exact List.rel_flatMap hboth fun _ _ h => asks_entryQuestions hlib h.1 h.2

end RawSchema

/-- If whoever is asked answers, the report on some fields is sealed and names exactly the rules of
the raw schema that the answers break, in the order of the schema. -/
theorem Library.validate_raw_findings {lib : Library} (hlib : lib.AddsFunctions) {schema : Mapping}
    (htext : RawSchema.HasTextNames (.mapping schema)) {compiled : Schema}
    (hcompile : lib.compile (.raw (.mapping schema)) = .ok compiled) {s : Surroundings}
    {items : Mapping} (hanswered : ∀ q ∈ RawSchema.questions s lib items schema, q.IsAnswered) :
    ∃ report, (lib.validate s (.mapping items) (.raw (.mapping schema))).result = .ok report ∧
      report.isSealed = true ∧
      report.findings.map (fun finding => (Value.text finding.field, Value.text finding.kind)) =
        Question.noted (RawSchema.questions s lib items schema) := by
  have hasks : List.Forall₂ Question.IsAskedBy (RawSchema.questions s lib items schema)
      (compiled.trials s lib items) := RawSchema.asks_questions hlib.isUsable htext hcompile
  have htrials : ∀ t ∈ compiled.trials s lib items, t.IsAnswered :=
    forall_mem_right_of_forall₂ hasks fun q hq _ h => h.isAnswered (hanswered q hq)
  refine ⟨_, congrArg Run.result (Library.validate_of_answered hcompile htrials), rfl, ?_⟩
  exact Question.noted_eq_of_isAskedBy hasks

/-- A schema with rules of every sort. -/
def mixedSchema : Mapping :=
  [(.text "terms", .function 1),
    (.text "age", .mapping [(.text "required", .bool true), (.text "even", .bool false),
      (.text "in", .list [.int 17]), (.text "notBlank", .function 2)])]

/-- Functions of which one gives no decision, one answers zero, and the others answer no. -/
def mixedAnswers : Surroundings where
  answer f _ := .ok (match f with
    | 0 => .null
    | 1 => .int 0
    | _ => .bool false)
  today := Surroundings.silent.today
  stack := Surroundings.silent.stack

/-- No decision breaks a flag, and zero breaks nothing. -/
theorem Library.validate_mixedSchema_findings :
    ∃ report, ((standard.add [(.text "even", .function 0)]).validate mixedAnswers
        (.mapping [(.text "age", .int 17)]) (.raw (.mapping mixedSchema))).result = .ok report ∧
      report.isSealed = true ∧
      report.findings.map (fun finding => (Value.text finding.field, Value.text finding.kind)) =
        [(.text "age", .text "even"), (.text "age", .text "notBlank")] := by
  have hlib : (standard.add [(.text "even", .function 0)]).AddsFunctions :=
    ⟨[(.text "even", .function 0)], by simp, rfl⟩
  have htext : RawSchema.HasTextNames (.mapping mixedSchema) := by
    simp only [mixedSchema, RawSchema.HasTextNames, RawSchema.HasTextKinds,
      List.forall_mem_cons, Value.text.injEq, exists_eq', true_and, and_true]
    simp
  exact validate_raw_findings hlib htext rfl (by decide)

end FieldRules
