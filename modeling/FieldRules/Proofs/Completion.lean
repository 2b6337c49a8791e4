import FieldRules.Proofs.Documents
import FieldRules.Proofs.Groups
import FieldRules.Proofs.SchemaFaults

/-!
# Validations that come to their end

A schema without functions is checked by built-in checks only, and these have an answer except at the
limits of `Kind.FailsWith`. So a validation comes to its end exactly if no rule meets its limit, which
is a matter of the schema, the fields and the stack, and not of the day. Nothing catches the failure if one
does: the caller gets it in place of a report, and the service breaks.

## Main definitions

* `Schema.HasNoFunctions` — schemas that are checked by built-in checks only
* `Rule.FailsWith`, `Schema.FailsWith` — rules that meet their limits

## Main statements

* `Library.validate_standard_eq_ok_iff` — when there is a report
* `Library.completes_within_limits` — when there is a report, and when the service breaks
* `Library.not_always_completes` — limits are met
-/

namespace FieldRules

/-- The check of a rule fails for a value. -/
def Rule.FailsWith (rule : Rule) (stack : Stack) (value : Value) (items : Mapping) (failure : Failure) :
    Prop :=
  ∃ kind : Kind, rule.kind = kind.name ∧ kind.FailsWith stack value rule.given items failure

namespace Schema

/-- No field and no rule of the schema is checked by a function of its own. -/
def HasNoFunctions (schema : Schema) : Prop :=
  ∀ entry ∈ schema.entries,
    (∃ field rules, entry = .ruleSet field rules) ∧ ∀ rule ∈ entry.ruleList, ¬ rule.IsInline

/-- The check of some rule fails for the value of its field. -/
def FailsWith (schema : Schema) (stack : Stack) (items : Mapping) (failure : Failure) : Prop :=
  ∃ entry ∈ schema.entries, ∃ rule ∈ entry.ruleList,
    rule.FailsWith stack (Mapping.getOrNull items (.text entry.field)) items failure

end Schema

/-- A check never fails for something that is wrong with the schema. -/
theorem Schema.FailsWith.ne_schema {schema : Schema} {stack : Stack} {items : Mapping}
    {failure : Failure} (h : schema.FailsWith stack items failure) (fault : SchemaFault) : failure ≠ .schema fault := by
  rintro rfl
  obtain ⟨entry, -, rule, -, kind, -, hkind⟩ := h
  cases hkind

namespace Library

variable {s : Surroundings} {items : Mapping} {source : SchemaSource} {schema : Schema}
  {failure : Failure}

/-! ## Reports -/

/-- A known rule without a function asks a built-in check, and nothing is called. -/
theorem exists_passes_standard_eq {rule : Rule} (hknows : standard.knows rule = true)
    (hrule : ¬ rule.IsInline) :
    ∃ kind : Kind, rule.kind = kind.name ∧ ∀ s fields value,
      standard.passes s fields value rule =
        ⟨[], ((kind.judge s value rule.given fields).map Verdict.toValue).map
          rule.accepts⟩ := by
  obtain ⟨check, hcheck, -⟩ := isUsable_standard.exists_check?_of_knows hknows hrule
  obtain ⟨kind, hkind, rfl⟩ := Option.map_eq_some_iff.mp (check?_standard rule.kind ▸ hcheck)
  exact ⟨kind, (Kind.name_eq_of_ofName?_eq_some hkind).symm,
    fun s fields value => passes_of_check? hrule hcheck⟩

/-- A known rule without a function has an answer unless its check fails. -/
theorem passes_standard_eq_error_iff {rule : Rule} (hknows : standard.knows rule = true)
    (hrule : ¬ rule.IsInline) (value : Value) :
    (standard.passes s (.mapping items) value rule).result = .error failure ↔
      rule.FailsWith s.stack value items failure := by
  obtain ⟨kind, hkind, hpasses⟩ := exists_passes_standard_eq hknows hrule
  have hname : ∀ kind' : Kind, rule.kind = kind'.name ↔ kind = kind' := by
    intro kind'
    rw [hkind]
    exact ⟨Kind.name_injective, congrArg Kind.name⟩
  simp only [hpasses, map_eq_error_iff, Kind.judge_eq_error_iff, Rule.FailsWith, hname,
    exists_eq_left']

/-- The trials of a schema without functions are answered unless a check fails. -/
theorem exists_trial_eq_error_iff (hcompile : standard.compile source = .ok schema)
    (hplain : schema.HasNoFunctions) :
    (∃ t ∈ schema.trials s standard items, t.passed.result = .error failure) ↔
      schema.FailsWith s.stack items failure := by
  have hentry : ∀ entry ∈ schema.entries,
      ((∃ t ∈ entry.trials s standard items, t.passed.result = .error failure) ↔
        ∃ rule ∈ entry.ruleList,
          rule.FailsWith s.stack (Mapping.getOrNull items (.text entry.field)) items failure) := by
    intro entry hentry
    have hknows := isUsable_standard.knows_of_compile hcompile entry hentry
    obtain ⟨⟨field, rules, rfl⟩, hinline⟩ := hplain entry hentry
    simp only [Entry.trials, Entry.ruleList, Entry.field, List.mem_map, exists_exists_and_eq_and] at hknows hinline ⊢
    exact exists_congr fun rule => and_congr_right fun hrule =>
      passes_standard_eq_error_iff (hknows rule hrule) (hinline rule hrule) _
  simp only [Schema.trials, Schema.FailsWith, List.mem_flatMap]
  constructor
  · rintro ⟨t, ⟨entry, hmem, ht⟩, hfailure⟩
    exact ⟨entry, hmem, (hentry entry hmem).mp ⟨t, ht, hfailure⟩⟩
  · rintro ⟨entry, hmem, hrule⟩
    obtain ⟨t, ht, hfailure⟩ := (hentry entry hmem).mpr hrule
    exact ⟨t, ⟨entry, hmem, ht⟩, hfailure⟩

/-- A validation that ends with a failure ends with the failure of a check. -/
theorem failsWith_of_validate_standard_eq_error (hcompile : standard.compile source = .ok schema)
    (hplain : schema.HasNoFunctions)
    (h : (standard.validate s (.mapping items) source).result = .error failure) :
    schema.FailsWith s.stack items failure := by
  obtain ⟨t, ht, hfailure, -⟩ := exists_trial_of_validate_error hcompile h
  exact (exists_trial_eq_error_iff hcompile hplain).mp ⟨t, ht, hfailure⟩

/-- There is a report exactly if no check fails. -/
theorem validate_standard_eq_ok_iff (hcompile : standard.compile source = .ok schema)
    (hplain : schema.HasNoFunctions) :
    (∃ report, (standard.validate s (.mapping items) source).result = .ok report) ↔
      ∀ failure, ¬ schema.FailsWith s.stack items failure := by
  constructor
  · rintro ⟨report, hreport⟩ failure hfails
    obtain ⟨t, ht, hfailure⟩ := (exists_trial_eq_error_iff hcompile hplain).mpr hfails
    obtain ⟨b, hb⟩ := ((validate_result_eq_ok_iff hcompile).mp hreport).1 t ht
    rw [hb] at hfailure
    cases hfailure
  · intro h
    cases hresult : (standard.validate s (.mapping items) source).result with
    | ok report => exact ⟨report, rfl⟩
    | error failure =>
        exact absurd (failsWith_of_validate_standard_eq_error hcompile hplain hresult) (h failure)

end Library

/-! ## Submissions -/

namespace Submission

variable {s : Surroundings} {submission : Submission} {schema : Schema}

theorem IsPlain.hasTextNames (h : submission.IsPlain) :
    RawSchema.HasTextNames submission.rawSchema := by
  simp only [rawSchema, RawSchema.HasTextNames, RawSchema.HasTextKinds, List.forall_mem_map]
  exact fun entry hentry =>
    ⟨(h entry hentry).1, fun rule hrule => ((h entry hentry).2 rule hrule).1⟩

/-- What a plain submission asks for is checked without functions. -/
theorem IsPlain.hasNoFunctions (h : submission.IsPlain)
    (hcompile : Library.standard.compile (.raw submission.rawSchema) = .ok schema) :
    schema.HasNoFunctions := by
  refine forall_mem_right_of_forall₂ ((Library.compile_raw_eq_ok_iff ..).mp hcompile) ?_
  intro raw hraw entry hentry
  obtain ⟨given, hgiven, rfl⟩ := List.mem_map.mp hraw
  cases hentry with
  | ruleSet htext heach =>
      refine ⟨⟨_, _, rfl⟩, forall_mem_right_of_forall₂ heach ?_⟩
      rintro rule hrule compiled hcompiled ⟨kind, f, rfl⟩
      cases hcompiled with
      | inline => exact ((h given hgiven).2 _ hrule).2 f rfl

/-- The form of a submission, once its schema is compiled. -/
theorem make_of_compile
    (hcompile : Library.standard.compile (.raw submission.rawSchema) = .ok schema) :
    Form.make .standard (.raw submission.rawSchema) submission.rawMessages .null =
      .ok ⟨.standard, schema, submission.messages.map fun entry => (entry.1, .text entry.2), []⟩ := by
  cases hmessages : submission.messages <;>
    simp [Form.make, hcompile, rawMessages, hmessages, Value.isTruthy, Mapping.ofValue, bind,
      Except.bind, pure, Except.pure]

/-- The messages of the failing fields of a report, null for those that have none. A submission
without messages has none of these either. -/
def messagesFor (submission : Submission) (report : Report) : List (String × Value) :=
  if submission.messages.isEmpty then []
  else
    report.groups.map fun group =>
      (group.1, Mapping.getOrNull (submission.messages.map fun entry => (entry.1, .text entry.2))
        (.text group.1))

end Submission

/-! ## Requests -/

namespace Service

variable {s : Surroundings} {submission : Submission} {schema : Schema} {failure : Failure}

/-- A schema that is not compiled is not checked. -/
theorem checkForm_of_compile_error
    (hcompile : Library.standard.compile (.raw submission.rawSchema) = .error failure) :
    (checkForm s submission).result = .error failure := by
  have hmake : Form.make .standard (.raw submission.rawSchema) submission.rawMessages .null =
      .error failure := by
    simp [Form.make, hcompile, bind, Except.bind]
  simp [checkForm, hmake, Run.result_bind, Except.bind]

/-- Once the schema is compiled, the outcome of the validation is told, with the messages of the
failing fields if the submission has messages. -/
theorem result_checkForm
    (hcompile : Library.standard.compile (.raw submission.rawSchema) = .ok schema) :
    (checkForm s submission).result =
      (Library.standard.validate s (.mapping submission.fields) (.compiled schema)).result.map
        fun report => outcome report (submission.messagesFor report) := by
  unfold checkForm
  simp only [Submission.make_of_compile hcompile, Run.result_bind, Run.result_ofResult, Except.bind,
    Form.validate]
  cases (Library.standard.validate s (.mapping submission.fields) (.compiled schema)).result with
  | error failure => rfl
  | ok report =>
      have htexts : ∀ entry ∈ submission.messages.map fun entry => (entry.1, Value.text entry.2),
          ∃ message, entry.2 = .text message :=
        List.forall_mem_map.mpr fun entry _ => ⟨entry.2, rfl⟩
      have hmessages := Form.result_errorMessages ⟨.standard, schema, _, []⟩ htexts s report
      by_cases hnone : submission.messages.isEmpty = true
      · simp [hnone, Submission.messagesFor, Except.map]
      · simp [hnone, Submission.messagesFor, hmessages, Run.result_bind, Except.bind, Except.map]

/-- A plain submission breaks the service exactly if a check fails. -/
theorem status_check_eq_500_iff (hplain : submission.IsPlain) (settings : Settings) :
    status (check s settings submission) = 500 ↔
      submission.schema.length ≤ settings.maxFields ∧
        ∃ schema failure, Library.standard.compile (.raw submission.rawSchema) = .ok schema ∧
          schema.FailsWith s.stack submission.fields failure := by
  by_cases hmany : settings.maxFields < submission.schema.length
  · have hnot : ¬ (submission.schema.length : Int) ≤ settings.maxFields := by omega
    simp [check, hmany, hnot, tooManyFields, detail, status]
  · have hfew : (submission.schema.length : Int) ≤ settings.maxFields := by omega
    simp only [check, hmany, if_false, hfew, true_and]
    cases hcompile : Library.standard.compile (.raw submission.rawSchema) with
    | error failure =>
        have hmeets : Library.Meets (Library.standard.offences submission.rawSchema)
            (Library.standard.compile (.raw submission.rawSchema)) :=
          Library.compile_meets_offences hplain.hasTextNames
        rw [hcompile] at hmeets
        generalize Library.standard.offences submission.rawSchema = offences at hmeets
        cases hmeets with
        | fault fault =>
            have hform := checkForm_of_compile_error (s := s) hcompile
            simp [hform, schemaRefused, status]
    | ok schema =>
        have hcompiled := Library.isUsable_standard.compile_compiled hcompile
        have hfree := hplain.hasNoFunctions hcompile
        simp only [Except.ok.injEq, exists_and_left, exists_eq_left', result_checkForm hcompile]
        cases hresult : (Library.standard.validate s (.mapping submission.fields)
            (.compiled schema)).result with
        | ok report =>
            have hok : ¬ ∃ failure, schema.FailsWith s.stack submission.fields failure := by
              rw [not_exists, ← Library.validate_standard_eq_ok_iff (s := s) hcompiled hfree]
              exact ⟨report, hresult⟩
            simp [hok, status, Except.map]
        | error failure =>
            have hfails :=
              Library.failsWith_of_validate_standard_eq_error hcompiled hfree hresult
            rw [iff_true_right ⟨failure, hfails⟩]
            cases failure with
            | schema fault => exact absurd rfl (hfails.ne_schema fault)
            | _ => rfl

/-- A request for a check is answered for its body. -/
theorem respond_post (s : Surroundings) (settings : Settings) {path : List Char}
    (hpath : Resource.find? path = some .validation) (body : Body) :
    respond s settings ⟨"POST", path, body⟩ = checkBody s settings body := by
  have hupper : String.ofList (Text.upperAscii "POST".toList) = "POST" := by decide
  simp only [respond, hpath, hupper, Resource.methods, answerOf]
  simp

/-- A request that brings a submission along breaks the service exactly if a check fails. -/
theorem status_respond_eq_500_iff {content : Content} {body : Body} {document : Value}
    (hwrite : content.write s.stack = .ok body)
    (hbody : document? s.stack body = some (.value document))
    (hsubmission : Submission.ofDocument document = .ok submission) {path : List Char}
    (hpath : Resource.find? path = some .validation) (settings : Settings) :
    status (respond s settings ⟨"POST", path, body⟩) = 500 ↔
      submission.schema.length ≤ settings.maxFields ∧
        ∃ schema failure, Library.standard.compile (.raw submission.rawSchema) = .ok schema ∧
          schema.FailsWith s.stack submission.fields failure := by
  have hplain := Submission.isPlain_of_ofDocument (isDocumentValue_of_document? hwrite hbody)
    hsubmission
  rw [respond_post s settings hpath, ← status_check_eq_500_iff (s := s) hplain settings]
  simp only [checkBody, hbody, hsubmission]

end Service

/-! ## Where validations end -/

namespace Library

/-- Within the limits of the checks, and only there, a validation ends with a report and a request with
an answer other than that of a broken service. The stack is a limit only for values that lie deeper than
it always suffices for. -/
theorem completes_within_limits (s : Surroundings) (settings : Settings) :
    (∀ source schema items, standard.compile source = .ok schema → schema.HasNoFunctions →
      (∀ failure, (standard.validate s (.mapping items) source).result = .error failure →
        schema.FailsWith s.stack items failure) ∧
      ((∃ report, (standard.validate s (.mapping items) source).result = .ok report) ↔
        ∀ failure, ¬ schema.FailsWith s.stack items failure)) ∧
    (∀ (schema : Schema) items, schema.FailsWith s.stack items .tooDeep →
      ∃ entry ∈ schema.entries, min s.stack.equalityLevels s.stack.deepLevels <
        (Mapping.getOrNull items (.text entry.field)).depth) ∧
    ∀ (content : Content) body document submission path, content.write s.stack = .ok body →
      Service.document? s.stack body = some (.value document) →
      Submission.ofDocument document = .ok submission →
      Resource.find? path = some .validation →
        (Service.status (Service.respond s settings ⟨"POST", path, body⟩) = 500 ↔
          submission.schema.length ≤ settings.maxFields ∧
            ∃ schema failure, standard.compile (.raw submission.rawSchema) = .ok schema ∧
              schema.FailsWith s.stack submission.fields failure) := by
  refine ⟨fun source schema items hcompile hplain => ⟨fun failure hfailure => ?_, ?_⟩, ?_, ?_⟩
  · exact failsWith_of_validate_standard_eq_error hcompile hplain hfailure
  · exact validate_standard_eq_ok_iff hcompile hplain
  · rintro schema items ⟨entry, hentry, rule, -, kind, -, hfails⟩
    exact ⟨entry, hentry, hfails.lt_depth⟩
  · intro content body document submission path hwrite hbody hsubmission hpath
    exact Service.status_respond_eq_500_iff hwrite hbody hsubmission hpath settings

/-- The rules of a schema about age. -/
def ageRules : Mapping :=
  [(.text "over16", .bool true)]

/-- The schema about age, compiled. -/
def ageSchema : Schema :=
  ⟨[.ruleSet "born" [.flag "over16" true]]⟩

/-- What is submitted to have an age checked. -/
def ageSubmission (birth : String) : Submission :=
  ⟨[(.text "born", .text birth)], [(.text "born", ageRules)], []⟩

/-- The document of a submission to have an age checked. -/
def ageDocument (birth : String) : Value :=
  .mapping [(.text "attributes", .mapping (ageSubmission birth).fields),
    (.text "schema", (ageSubmission birth).rawSchema)]

theorem compile_ageSubmission (birth : String) :
    standard.compile (.raw (ageSubmission birth).rawSchema) = .ok ageSchema := rfl

theorem ofDocument_ageDocument (birth : String) :
    Submission.ofDocument (ageDocument birth) = .ok (ageSubmission birth) := rfl

theorem write_ageDocument (birth : String) :
    (Content.value (ageDocument birth)).write Surroundings.silent.stack =
      .ok (.document (ageDocument birth)) := rfl

theorem hasNoFunctions_ageSchema : ageSchema.HasNoFunctions := by
  simp [Schema.HasNoFunctions, ageSchema, Entry.ruleList, Rule.IsInline]

/-- The rule about age fails for those who are born too late to come of age. -/
theorem failsWith_ageSchema_iff (stack : Stack) (birth : String) (failure : Failure) :
    ageSchema.FailsWith stack (ageSubmission birth).fields failure ↔
      ∃ born, (Value.text birth).birthDay? = some born ∧
        lastYear < born.year + Kind.leastAge ∧
        failure = .yearOutOfRange (born.year + Kind.leastAge) := by
  constructor
  · rintro ⟨entry, hentry, rule, hrule, kind, hkind, hfails⟩
    obtain rfl := List.mem_singleton.mp hentry
    obtain rfl := List.mem_singleton.mp hrule
    obtain rfl : Kind.over16 = kind := Kind.name_injective hkind
    cases hfails with
    | age hborn hlate => exact ⟨_, hborn, hlate, rfl⟩
  · rintro ⟨born, hborn, hlate, rfl⟩
    exact ⟨_, List.mem_singleton_self _, _, List.mem_singleton_self _, .over16, rfl,
      .age hborn hlate⟩

theorem failsWith_ageSchema_late (stack : Stack) :
    ageSchema.FailsWith stack (ageSubmission "01/01/9990").fields (.yearOutOfRange 10006) :=
  (failsWith_ageSchema_iff ..).mpr ⟨⟨9990, 1, 1, by decide⟩, by decide, by decide, rfl⟩

/-- An age is checked of those born in 1990. Of those born in 9990 it is not, and the service breaks. -/
theorem completes_unless_born_late :
    (∀ s, ∃ report, (standard.validate s (.mapping (ageSubmission "01/01/1990").fields)
      (.compiled ageSchema)).result = .ok report) ∧
    (∀ s, ¬ ∃ report, (standard.validate s (.mapping (ageSubmission "01/01/9990").fields)
      (.compiled ageSchema)).result = .ok report) ∧
    Service.status (Service.respond .silent .standard
      ⟨"POST", "/validate".toList, .document (ageDocument "01/01/9990")⟩) = 500 := by
  have hcompile : standard.compile (.compiled ageSchema) = .ok ageSchema := rfl
  refine ⟨fun s => ?_, fun s => ?_, ?_⟩
  · refine ((completes_within_limits s .standard).1 _ _ _ hcompile
      hasNoFunctions_ageSchema).2.mpr ?_
    intro failure hfails
    obtain ⟨born, hborn, hlate, -⟩ := (failsWith_ageSchema_iff ..).mp hfails
    have hday : (Value.text "01/01/1990").birthDay? = some ⟨1990, 1, 1, by decide⟩ := by decide
    rw [hday] at hborn
    obtain rfl := Option.some.inj hborn
    exact absurd hlate (by decide)
  · rw [((completes_within_limits s .standard).1 _ _ _ hcompile hasNoFunctions_ageSchema).2]
    exact fun h => h _ (failsWith_ageSchema_late _)
  · exact ((completes_within_limits .silent .standard).2.2 _ _ _ _ _ (write_ageDocument _) rfl
      (ofDocument_ageDocument _) rfl).mpr
        ⟨by decide, ageSchema, _, compile_ageSubmission _, failsWith_ageSchema_late _⟩

/-- Neither does every validation end with a report, nor every request without breaking the service. -/
theorem not_always_completes :
    ¬ (∀ source schema, standard.compile source = .ok schema → schema.HasNoFunctions → ∀ s items,
      ∃ report, (standard.validate s (.mapping items) source).result = .ok report) ∧
    ¬ ∀ s settings (content : Content) body document submission path,
      content.write s.stack = .ok body → Service.document? s.stack body = some (.value document) →
      Submission.ofDocument document = .ok submission →
      Resource.find? path = some .validation →
        Service.status (Service.respond s settings ⟨"POST", path, body⟩) ≠ 500 := by
  have hpath : Resource.find? "/validate".toList = some .validation := rfl
  constructor
  · intro h
    have hreport := h _ _ (compile_ageSubmission "01/01/9990") hasNoFunctions_ageSchema .silent
      (ageSubmission "01/01/9990").fields
    exact (validate_standard_eq_ok_iff (compile_ageSubmission _) hasNoFunctions_ageSchema).mp hreport
      _ (failsWith_ageSchema_late _)
  · intro h
    have hbroken := (Service.status_respond_eq_500_iff (write_ageDocument "01/01/9990") rfl
      (ofDocument_ageDocument _) hpath .standard).mpr
        ⟨by decide, ageSchema, _, compile_ageSubmission _, failsWith_ageSchema_late _⟩
    exact h _ _ _ _ _ _ _ (write_ageDocument _) rfl (ofDocument_ageDocument _) hpath hbroken

end Library

end FieldRules
