import FieldRules.Proofs.Completion
import FieldRules.Proofs.KeptGroups
import FieldRules.Proofs.RawReading

/-!
# The answer to a submission

A submission is refused for the number of its fields, and if there are not too many of them, for
the first of its rules whose kind is not built in. The first refusal comes before anything else is
looked at, the second before any value is. A submission that is not refused is answered with
a summary of the report on its fields, the same report that a check without the service makes.

The parts of the summary come from the report in different ways. The number of findings is that of
the list, the errors are its groups, and the messages are collected by a visit of the groups. That
they agree with one another is a fact about groups: they share out the findings, so their sizes add
up to the number of findings, and there is none exactly if there is no finding.

## Main definitions

* `Submission.unknownRules` — the rules of a submission whose kind is not built in, in order
* `Summary`, `Summary.content` — what is told about the fields of a submission
* `Summary.Tells` — a summary agrees with a submission and the report on its fields

## Main statements

* `Submission.IsPlain.offences_rawSchema` — unknown kinds are all that can be wrong with a schema
* `Submission.exists_summary` — the summary of a report
* `Service.respond_submission` — the answer to a request that brings a submission along
-/

namespace FieldRules

/-- The built-in kind that a value names. -/
def Kind.named? : Value → Option Kind
  | .text name => ofName? name
  | _ => none

theorem Library.contains_standard (name : String) :
    standard.contains (.text name) = (Kind.named? (.text name)).isSome := by
  rw [isUsable_standard.contains_eq_isSome_check?, check?_standard, Option.isSome_map]
  rfl

/-! ## Rules of unknown kinds -/

namespace Submission

variable {submission : Submission}

/-- The rules of a submission whose kind is not built in, each with its field, in the order of the
fields and then of the rules. -/
def unknownRules (submission : Submission) : List (Value × Value) :=
  submission.schema.flatMap fun entry =>
    (entry.2.filter fun rule => (Kind.named? rule.1).isNone).map fun rule => (entry.1, rule.1)

/-- Unknown kinds are all that can be wrong with the schema of a plain submission. -/
theorem IsPlain.offences_rawSchema (h : submission.IsPlain) :
    Library.standard.offences submission.rawSchema =
      submission.unknownRules.map fun place => (some place.1, some place.2) := by
  simp only [rawSchema, Library.offences, unknownRules, List.flatMap_map, List.map_flatMap,
    List.map_map]
  refine List.flatMap_congr fun entry hentry => ?_
  rw [← List.filterMap_eq_map, List.filterMap_filter]
  refine List.filterMap_congr fun rule hrule => ?_
  obtain ⟨⟨kind, hkind⟩, hnone⟩ := (h entry hentry).2 rule hrule
  obtain ⟨key, value⟩ := rule
  obtain rfl : key = .text kind := hkind
  cases value with
  | function f => exact absurd rfl (hnone f)
  | _ => cases hnamed : Kind.named? (.text kind) <;> simp [Library.contains_standard, hnamed]

/-- A plain submission meets its rules of unknown kinds when its schema is compiled. -/
theorem IsPlain.meets_unknownRules (h : submission.IsPlain) :
    Library.Meets (submission.unknownRules.map fun place => (some place.1, some place.2))
      (Library.standard.compile (.raw submission.rawSchema)) :=
  h.offences_rawSchema ▸ Library.compile_meets_offences h.hasTextNames

/-- The first rule of an unknown kind is the fault of the schema. -/
theorem IsPlain.compile_of_unknownRules (h : submission.IsPlain) {field kind : Value}
    {rest : List (Value × Value)} (hunknown : submission.unknownRules = (field, kind) :: rest) :
    Library.standard.compile (.raw submission.rawSchema) =
      .error (.schema (.unknownKind field kind)) := by
  have hmeets := h.meets_unknownRules
  rw [hunknown, List.map_cons] at hmeets
  generalize hresult : Library.standard.compile (.raw submission.rawSchema) = result at hmeets
  -- A fault that tells both the field and the kind is that of an unknown kind.
  generalize hfield : some field = field? at hmeets
  generalize hkind : some kind = kind? at hmeets
  cases hmeets with
  | fault fault =>
      cases fault <;> simp_all [SchemaFault.field?, SchemaFault.kind?]

/-- Without rules of unknown kinds the schema is compiled. -/
theorem IsPlain.exists_compile (h : submission.IsPlain) (hknown : submission.unknownRules = []) :
    ∃ schema, Library.standard.compile (.raw submission.rawSchema) = .ok schema := by
  have hmeets := h.meets_unknownRules
  rw [hknown, List.map_nil] at hmeets
  generalize Library.standard.compile (.raw submission.rawSchema) = result at hmeets
  cases hmeets with
  | ok schema => exact ⟨schema, rfl⟩

end Submission

/-! ## Questions -/

namespace Submission

variable {s : Surroundings} {submission : Submission} {schema : Schema}

/-- What the rules of a submission ask of its fields. -/
def questions (s : Surroundings) (submission : Submission) : List Question :=
  RawSchema.questions s .standard submission.fields
    (submission.schema.map fun entry => (entry.1, .mapping entry.2))

/-- If every question of a plain submission is answered, its fields have a report, and this is the
same for the schema as it was submitted and for the compiled one. -/
theorem IsPlain.exists_report (h : submission.IsPlain)
    (hcompile : Library.standard.compile (.raw submission.rawSchema) = .ok schema)
    (hanswered : ∀ q ∈ submission.questions s, q.IsAnswered) :
    ∃ report, (Library.standard.validate s (.mapping submission.fields)
        (.raw submission.rawSchema)).result = .ok report ∧
      (Library.standard.validate s (.mapping submission.fields)
        (.compiled schema)).result = .ok report := by
  have hasks : List.Forall₂ Question.IsAskedBy (submission.questions s)
      (schema.trials s .standard submission.fields) :=
    RawSchema.asks_questions Library.isUsable_standard h.hasTextNames hcompile
  have htrials : ∀ t ∈ schema.trials s .standard submission.fields, t.IsAnswered :=
    forall_mem_right_of_forall₂ hasks fun q hq _ hqt => hqt.isAnswered (hanswered q hq)
  have hcompiled := Library.isUsable_standard.compile_compiled hcompile
  exact ⟨_, congrArg Run.result (Library.validate_of_answered hcompile htrials),
    congrArg Run.result (Library.validate_of_answered hcompiled htrials)⟩

end Submission

/-! ## Summaries -/

/-- What is told about the fields of a submission. -/
structure Summary where
  valid : Bool
  /-- The number of findings. -/
  count : Nat
  /-- The failing fields with the kinds of the rules that they failed. -/
  errors : List (String × List String)
  /-- Messages of failing fields. -/
  messages : List (String × Option String)

/-- The value of a message, null if there is none. -/
def Summary.messageValue : Option String → Value
  | some message => .text message
  | none => .null

/-- A summary as the content of an answer. -/
def Summary.content (summary : Summary) : Value :=
  Service.object [("valid", .bool summary.valid), ("error_count", .int summary.count),
    ("errors", Service.object (summary.errors.map fun group => (group.1, Service.texts group.2))),
    ("messages", Service.object
      (summary.messages.map fun entry => (entry.1, messageValue entry.2)))]

/-- A summary agrees with a submission and the report on its fields. -/
structure Summary.Tells (summary : Summary) (submission : Submission) (report : Report) : Prop where
  /-- The errors are those of the report. -/
  errors_eq : summary.errors = report.groups
  /-- The failing fields come in the order of their first findings. -/
  errors_eq_listing : summary.errors = Report.listing report.findings
  count_eq : summary.count = (summary.errors.map fun group => group.2.length).sum
  valid_iff : summary.valid = true ↔ summary.count = 0
  count_eq_zero_iff : summary.count = 0 ↔ summary.errors = []
  messages_eq_nil : submission.messages = [] → summary.messages = []
  /-- If the submission has messages, each failing field has the one that it was given, if any. -/
  messages_eq : submission.messages ≠ [] →
    summary.messages = summary.errors.map fun group =>
      (group.1, Mapping.get? submission.messages (.text group.1))

/-- There is no group exactly if there is no finding. -/
theorem Report.groups_eq_nil_iff {report : Report} : report.groups = [] ↔ report.length = 0 := by
  rw [groups, groupsOf_eq_listing, listing, List.map_eq_nil_iff, length, List.length_eq_zero_iff,
    List.eq_nil_iff_forall_not_mem, List.eq_nil_iff_forall_not_mem]
  constructor
  · intro hnone finding hfinding
    exact hnone finding.field (mem_failingFields_iff.mpr ⟨finding, hfinding, rfl⟩)
  · intro hnone field hfield
    obtain ⟨finding, hfinding, -⟩ := mem_failingFields_iff.mp hfield
    exact hnone finding hfinding

/-- The message of a field, as a value. -/
theorem Submission.getOrNull_messages (submission : Submission) (key : Value) :
    Mapping.getOrNull (submission.messages.map fun entry => (entry.1, .text entry.2)) key =
      Summary.messageValue (Mapping.get? submission.messages key) := by
  simp only [Mapping.getOrNull, Mapping.get?, List.find?_map, Option.map_map,
    Function.comp_def]
  cases submission.messages.find? fun entry => key.same entry.1 <;> rfl

/-- What is told about a report is a summary that agrees with it. -/
theorem Submission.exists_summary (submission : Submission) (report : Report) :
    ∃ summary : Summary, summary.Tells submission report ∧
      Service.outcome report (submission.messagesFor report) = summary.content := by
  let messages : List (String × Option String) :=
    if submission.messages = [] then []
    else report.groups.map fun group =>
      (group.1, Mapping.get? submission.messages (.text group.1))
  refine ⟨⟨report.length = 0, report.length, report.groups, messages⟩, ?_, ?_⟩
  · exact
      { errors_eq := rfl
        errors_eq_listing := Report.groupsOf_eq_listing report.findings
        count_eq := (Report.sum_length_groupsOf report.findings).symm
        valid_iff := decide_eq_true_iff
        count_eq_zero_iff := Report.groups_eq_nil_iff.symm
        messages_eq_nil := fun hnone => if_pos hnone
        messages_eq := fun hsome => if_neg hsome }
  · have hmessages : submission.messagesFor report =
        messages.map fun entry => (entry.1, Summary.messageValue entry.2) := by
      by_cases hnone : submission.messages = []
      · simp [messages, messagesFor, hnone]
      · simp [messages, messagesFor, hnone, getOrNull_messages]
    rw [hmessages]
    rfl

/-! ## Answers -/

namespace Service

variable {s : Surroundings} {settings : Settings} {submission : Submission}

theorem check_of_many (hmany : settings.maxFields < submission.schema.length) :
    check s settings submission = tooManyFields submission.schema.length settings.maxFields :=
  if_pos hmany

/-- A submission with a rule of an unknown kind is refused for the first one. -/
theorem check_of_unknownRules (hplain : submission.IsPlain)
    (hfew : submission.schema.length ≤ settings.maxFields) {field kind : Value}
    {rest : List (Value × Value)} (hunknown : submission.unknownRules = (field, kind) :: rest) :
    check s settings submission = schemaRefused (.unknownKind field kind) := by
  have hcompile := hplain.compile_of_unknownRules hunknown
  rw [check, if_neg (Int.not_lt.mpr hfew), checkForm_of_compile_error hcompile]

/-- A submission that has a report is answered with what is told about it. -/
theorem check_of_report {schema : Schema} {report : Report}
    (hfew : submission.schema.length ≤ settings.maxFields)
    (hcompile : Library.standard.compile (.raw submission.rawSchema) = .ok schema)
    (hreport : (Library.standard.validate s (.mapping submission.fields)
      (.compiled schema)).result = .ok report) :
    check s settings submission =
      .document 200 (outcome report (submission.messagesFor report)) := by
  have hform := result_checkForm (s := s) hcompile
  rw [hreport] at hform
  rw [check, if_neg (Int.not_lt.mpr hfew), hform]
  rfl

/-- A submission that is not refused has an answer of another sort, or breaks the service. -/
theorem status_check_of_known (hplain : submission.IsPlain)
    (hfew : submission.schema.length ≤ settings.maxFields)
    (hknown : submission.unknownRules = []) :
    status (check s settings submission) = 200 ∨ status (check s settings submission) = 500 := by
  obtain ⟨schema, hcompile⟩ := hplain.exists_compile hknown
  have hcompiled := Library.isUsable_standard.compile_compiled hcompile
  cases hresult : (Library.standard.validate s (.mapping submission.fields)
      (.compiled schema)).result with
  | ok report =>
      left
      rw [check_of_report hfew hcompile hresult]
      rfl
  | error failure =>
      right
      have hfails := Library.failsWith_of_validate_standard_eq_error hcompiled
        (hplain.hasNoFunctions hcompile) hresult
      exact (status_check_eq_500_iff hplain settings).mpr ⟨hfew, schema, failure, hcompile, hfails⟩

/-- Too many fields, and they alone, are told by the status. -/
theorem status_check_eq_413_iff (hplain : submission.IsPlain) :
    status (check s settings submission) = 413 ↔
      settings.maxFields < submission.schema.length := by
  constructor
  · intro hstatus
    by_contra hmany
    have hfew : submission.schema.length ≤ settings.maxFields := Int.not_lt.mp hmany
    cases hunknown : submission.unknownRules with
    | nil => rcases status_check_of_known (s := s) hplain hfew hunknown with h | h <;> omega
    | cons place rest =>
        rw [check_of_unknownRules hplain hfew hunknown] at hstatus
        cases hstatus
  · intro hmany
    rw [check_of_many hmany]
    rfl

/-- If there are not too many fields, a rule of an unknown kind, and nothing else, is told by the
status. -/
theorem status_check_eq_422_iff (hplain : submission.IsPlain)
    (hfew : submission.schema.length ≤ settings.maxFields) :
    status (check s settings submission) = 422 ↔ submission.unknownRules ≠ [] := by
  cases hunknown : submission.unknownRules with
  | nil =>
      have hstatus := status_check_of_known (s := s) hplain hfew hunknown
      simp only [ne_eq, not_true_eq_false, iff_false]
      omega
  | cons place rest =>
      rw [check_of_unknownRules hplain hfew hunknown]
      simp [schemaRefused, status]

/-- A request that brings a submission along is refused for too many fields, whatever its rules are;
then for the first rule of an unknown kind, if there is one; and otherwise, if its rules have
answers, it is told what the report on its fields says, which is the report that the library
makes. -/
theorem respond_submission {content : Content} {body : Body} {document : Value}
    (hwrite : content.write s.stack = .ok body)
    (hbody : document? s.stack body = some (.value document))
    (hsubmission : Submission.ofDocument document = .ok submission) {path : List Char}
    (hpath : Resource.find? path = some .validation) (settings : Settings)
    {response : Response} (hresponse : respond s settings ⟨"POST", path, body⟩ = response) :
    (status response = 413 ↔ settings.maxFields < submission.schema.length) ∧
    (settings.maxFields < submission.schema.length →
      response = tooManyFields submission.schema.length settings.maxFields) ∧
    (submission.schema.length ≤ settings.maxFields →
      (status response = 422 ↔ submission.unknownRules ≠ []) ∧
      (∀ field kind rest, submission.unknownRules = (field, kind) :: rest →
        response = .document 422 (object
          [("detail", .text (SchemaFault.unknownKind field kind).message),
            ("attribute", field), ("rule_kind", kind)])) ∧
      (submission.unknownRules = [] → (∀ q ∈ submission.questions s, q.IsAnswered) →
        ∃ (report : Report) (summary : Summary),
          (Library.standard.validate s (.mapping submission.fields)
            (.raw submission.rawSchema)).result = .ok report ∧
          summary.Tells submission report ∧ response = .document 200 summary.content)) := by
  have hplain : submission.IsPlain :=
    Submission.isPlain_of_ofDocument (isDocumentValue_of_document? hwrite hbody) hsubmission
  obtain rfl : check s settings submission = response := by
    rw [← hresponse, respond_post s settings hpath]
    simp only [checkBody, hbody, hsubmission]
  refine ⟨status_check_eq_413_iff hplain, check_of_many, fun hfew => ?_⟩
  refine ⟨status_check_eq_422_iff hplain hfew, ?_, ?_⟩
  · intro field kind rest hunknown
    exact check_of_unknownRules hplain hfew hunknown
  · intro hknown hanswered
    obtain ⟨schema, hcompile⟩ := hplain.exists_compile hknown
    obtain ⟨report, hraw, hcompiled⟩ := hplain.exists_report hcompile hanswered
    obtain ⟨summary, htells, hcontent⟩ := submission.exists_summary report
    refine ⟨report, summary, hraw, htells, ?_⟩
    rw [← hcontent]
    exact check_of_report hfew hcompile hcompiled

/-- The document of a submission. -/
def documentOf (submission : Submission) : Value :=
  object [("attributes", .mapping submission.fields), ("schema", submission.rawSchema),
    ("messages", submission.rawMessages)]

/-- What is filled in to sign up: two passwords that differ, and no age. -/
def signUp : Submission where
  fields := [(.text "pwd", .text "abc"), (.text "confirm", .text "xyz"), (.text "age", .text "")]
  schema := [(.text "confirm", [(.text "matches", .text "pwd")]),
    (.text "age", [(.text "required", .bool true), (.text "min", .int 18)])]
  messages := [(.text "confirm", "Passwords do not match")]

/-- The same with rules of two unknown kinds. -/
def misspeltSignUp : Submission :=
  { signUp with
    schema := [(.text "age", [(.text "required", .bool true), (.text "mim", .int 18)]),
      (.text "confirm", [(.text "match", .text "pwd")])] }

/-- The request that brings a submission along. -/
def requestOf (submission : Submission) : Request :=
  ⟨"POST", "/validate".toList, .document (documentOf submission)⟩

/-- All errors are told, with a message or null. A misspelt kind is refused, the first one if there
are more, and where a single field is too much, its number is told and no kind. -/
theorem respond_signUp :
    (∃ summary : Summary,
      respond .silent .standard (requestOf signUp) = .document 200 summary.content ∧
      summary.count = 3 ∧
      summary.errors = [("confirm", ["matches"]), ("age", ["required", "min"])] ∧
      summary.messages = [("confirm", some "Passwords do not match"), ("age", none)]) ∧
    respond .silent .standard (requestOf misspeltSignUp) = .document 422 (object
      [("detail", .text "Invalid validation type. Validation method doesn't exist: mim"),
        ("attribute", .text "age"), ("rule_kind", .text "mim")]) ∧
    status (respond .silent { Settings.standard with maxFields := 1 }
      (requestOf misspeltSignUp)) = 413 := by
  have hwrite : (Content.value (documentOf signUp)).write Surroundings.silent.stack =
      .ok (.document (documentOf signUp)) := rfl
  have hread : Submission.ofDocument (documentOf signUp) = .ok signUp := rfl
  have hwrite' : (Content.value (documentOf misspeltSignUp)).write Surroundings.silent.stack =
      .ok (.document (documentOf misspeltSignUp)) := rfl
  have hread' : Submission.ofDocument (documentOf misspeltSignUp) = .ok misspeltSignUp := rfl
  have hpath : Resource.find? "/validate".toList = some .validation := rfl
  refine ⟨?_, ?_, ?_⟩
  · obtain ⟨-, -, hanswer⟩ := respond_submission hwrite rfl hread hpath .standard rfl
    obtain ⟨-, -, htold⟩ := hanswer (by decide)
    obtain ⟨report, summary, hreport, htells, hcontent⟩ := htold rfl (by decide)
    obtain rfl : (⟨[⟨"confirm", "matches"⟩, ⟨"age", "required"⟩, ⟨"age", "min"⟩], true⟩ : Report) =
      report := Except.ok.inj hreport
    have herrors : summary.errors = [("confirm", ["matches"]), ("age", ["required", "min"])] :=
      htells.errors_eq
    refine ⟨summary, hcontent, ?_, herrors, ?_⟩
    · rw [htells.count_eq, herrors]
      rfl
    · rw [htells.messages_eq (by simp [signUp]), herrors]
      rfl
  · obtain ⟨-, -, hanswer⟩ := respond_submission hwrite' rfl hread' hpath .standard rfl
    obtain ⟨-, hrefused, -⟩ := hanswer (by decide)
    exact hrefused (.text "age") (.text "mim") [(.text "confirm", .text "match")] rfl
  · obtain ⟨hmany, -, -⟩ := respond_submission hwrite' rfl hread' hpath
      { Settings.standard with maxFields := 1 } rfl
    exact hmany.mpr (by decide)

end Service

end FieldRules
