import FieldRules.Proofs.SealedReports
import Mathlib.Data.List.Basic

/-!
# Messages

A form reads its messages from a report field by field: each failing field once, however many findings there
are for it and whatever lies between them, in the order of the first ones. Which message a field has is
decided when it is read, and it is the one that was assigned last. A message that is a function is called
then, so the calls come in the same order, one for each failing field with such a message. The first function
that fails ends the reading, and those of the fields after it are not called.

The report is only read, and looks the same afterwards whether the reading came to its end or not: at most,
it keeps the groups that were made on the way.

## Main definitions

* `Form.assignAll`, `Form.latestMessage` — assignments of messages, and the message they leave a field
* `Form.messageCall?`, `Form.messageAnswer` — the call that a message takes, and what it comes to
* `Form.readMessages` — the messages of a report that keeps its groups

## Main statements

* `Form.getOrNull_messages_assignAll` — a form has the messages that were assigned last
* `Form.failing_fields_told` — what is read, and what is called, for any report
-/

namespace FieldRules

namespace Form

variable {s : Surroundings} {form : Form}

/-! ## Assignments -/

/-- Gives a field another message. What cannot be the name of a field is given none. -/
def assign (form : Form) (assignment : Value × Value) : Form :=
  match form.setMessage assignment.1 assignment.2 with
  | .ok form => form
  | .error _ => form

/-- Makes assignments one after the other, where a failure does not end the sequence. -/
def assignAll (form : Form) (assignments : List (Value × Value)) : Form :=
  assignments.foldl assign form

/-- The message assigned to a field last, or else the one that it had before, null if it had none. -/
def latestMessage (form : Form) (assignments : List (Value × Value)) (field : String) : Value :=
  (Mapping.get? assignments.reverse (.text field)).getD
    (Mapping.getOrNull form.messages (.text field))

theorem getOrNull_messages_assign (form : Form) (assignment : Value × Value) (field : String) :
    Mapping.getOrNull (form.assign assignment).messages (.text field) =
      if (Value.text field).same assignment.1 then assignment.2
      else Mapping.getOrNull form.messages (.text field) := by
  obtain ⟨name, message⟩ := assignment
  cases hkey : name.canBeKey with
  | true =>
      simp only [assign, setMessage, Mapping.asKey, hkey, if_true, Except.map, Mapping.getOrNull,
        Mapping.get?_put_text]
      split <;> rfl
  | false =>
      have hname : ¬ (Value.text field).same name = true := by
        intro hsame
        obtain rfl := Value.same_text_left_iff.mp hsame
        cases hkey
      simp [assign, setMessage, Mapping.asKey, hkey, Except.map, hname]

theorem latestMessage_append_singleton (form : Form) (assignments : List (Value × Value))
    (assignment : Value × Value) (field : String) :
    form.latestMessage (assignments ++ [assignment]) field =
      if (Value.text field).same assignment.1 then assignment.2
      else form.latestMessage assignments field := by
  obtain ⟨name, message⟩ := assignment
  simp only [latestMessage, List.reverse_append, List.reverse_singleton, List.singleton_append,
    Mapping.get?_cons]
  split <;> rfl

/-- After assignments, a form has the message that was assigned last. -/
theorem getOrNull_messages_assignAll (form : Form) (assignments : List (Value × Value))
    (field : String) :
    Mapping.getOrNull (form.assignAll assignments).messages (.text field) =
      form.latestMessage assignments field := by
  -- The latest assignment is the one that is made last, so the induction takes off the last one.
  induction assignments using List.reverseRecOn with
  | nil => rfl
  | append_singleton assignments assignment ih =>
      rw [latestMessage_append_singleton, ← ih, ← getOrNull_messages_assign, assignAll, assignAll,
        List.foldl_append]
      rfl

/-! ## Single messages -/

/-- The call that a message takes: a function is called with nothing. -/
def messageCall? : Value → Option Call
  | .function f => some ⟨f, []⟩
  | _ => none

/-- What a message comes to: the answer of a function, and the message itself if it is none. -/
def messageAnswer (s : Surroundings) : Value → Except Failure Value
  | .function f => s.answer f []
  | message => .ok message

theorem message_text_eq (form : Form) (s : Surroundings) (field : String) :
    form.message s (.text field) =
      ⟨(messageCall? (Mapping.getOrNull form.messages (.text field))).toList,
        messageAnswer s (Mapping.getOrNull form.messages (.text field))⟩ := by
  have hmessage : form.message s (.text field) =
      match Mapping.getOrNull form.messages (.text field) with
      | .function f => Run.call s f []
      | message => pure message := rfl
  rw [hmessage]
  cases Mapping.getOrNull form.messages (.text field) <;> rfl

/-- Reads the message of one failing field. -/
def visitMessage (s : Surroundings) (form : Form) (field : String) (_ : List String) :
    Run (String × Value) := do
  let message ← form.message s (.text field)
  return (field, message)

theorem visitMessage_eq (form : Form) (s : Surroundings) (field : String) (kinds : List String) :
    form.visitMessage s field kinds =
      ⟨(messageCall? (Mapping.getOrNull form.messages (.text field))).toList,
        (messageAnswer s (Mapping.getOrNull form.messages (.text field))).map fun message =>
          (field, message)⟩ := by
  rw [visitMessage, message_text_eq]
  exact Run.bind_return ..

/-! ## All messages -/

/-- Reads the messages of all failing fields of a report that keeps its groups. -/
def readMessages (s : Surroundings) (form : Form) (r : IndexedReport) :
    IndexedReport × Run (List (String × Value)) :=
  (r.grouped.2, r.each (form.visitMessage s))

/-- Messages are read from the groups that are kept as they are from a report without kept groups. -/
theorem readMessages_snd {r : IndexedReport} (h : r.HasTrueIndex) (form : Form) (s : Surroundings) :
    (form.readMessages s r).2 = form.errorMessages s r.plain := by
  rw [readMessages, IndexedReport.each, h.grouped_eq]
  rfl

theorem errorMessages_eq_visitAll (form : Form) (s : Surroundings) (report : Report) :
    form.errorMessages s report =
      Report.visitAll (form.visitMessage s) (Report.listing report.findings) := by
  rw [← Report.groupsOf_eq_listing]
  rfl

section Reading

variable (s : Surroundings) (form : Form) (report : Report)

/-- If each message has an answer, the failing fields are told with the answers, and the functions among the
messages are called. -/
theorem errorMessages_of_answered (answer : String → Value)
    (h : ∀ field ∈ Report.failingFields report.findings,
      messageAnswer s (Mapping.getOrNull form.messages (.text field)) = .ok (answer field)) :
    form.errorMessages s report =
      ⟨(Report.failingFields report.findings).filterMap fun field =>
          messageCall? (Mapping.getOrNull form.messages (.text field)),
        .ok ((Report.failingFields report.findings).map fun field => (field, answer field))⟩ := by
  have hvisits : ∀ group ∈ Report.listing report.findings,
      (form.visitMessage s group.1 group.2).result = .ok (group.1, answer group.1) := by
    rw [Report.listing, List.forall_mem_map]
    intro field hfield
    rw [visitMessage_eq, h field hfield]
    rfl
  rw [errorMessages_eq_visitAll,
    Report.visitAll_of_answered (fun field _ => (field, answer field)) hvisits]
  simp only [visitMessage_eq, Report.listing, List.flatMap_map, List.map_map,
    List.filterMap_eq_flatMap_toList]
  rfl

/-- The first message that has no answer ends the reading, and is the last that is called. -/
theorem errorMessages_of_failure {before after : List String} {field : String} {failure : Failure}
    (hsplit : Report.failingFields report.findings = before ++ field :: after)
    (hbefore : ∀ b ∈ before, ∃ v,
      messageAnswer s (Mapping.getOrNull form.messages (.text b)) = .ok v)
    (h : messageAnswer s (Mapping.getOrNull form.messages (.text field)) = .error failure) :
    form.errorMessages s report =
      ⟨(before ++ [field]).filterMap fun field =>
          messageCall? (Mapping.getOrNull form.messages (.text field)),
        .error failure⟩ := by
  have hgroups : Report.listing report.findings =
      (before.map fun b => (b, Report.kindsIn report.findings b)) ++
        (field, Report.kindsIn report.findings field) ::
          after.map fun a => (a, Report.kindsIn report.findings a) := by
    rw [Report.listing, hsplit, List.map_append, List.map_cons]
  have hvisits : ∀ group ∈ before.map fun b => (b, Report.kindsIn report.findings b),
      ∃ told, (form.visitMessage s group.1 group.2).result = .ok told := by
    rw [List.forall_mem_map]
    intro b hb
    obtain ⟨v, hv⟩ := hbefore b hb
    exact ⟨(b, v), by rw [visitMessage_eq, hv]; rfl⟩
  have hfails : (form.visitMessage s field (Report.kindsIn report.findings field)).result =
      .error failure := by
    rw [visitMessage_eq, h]
    rfl
  rw [errorMessages_eq_visitAll, hgroups, Report.visitAll_of_failure hvisits hfails]
  simp only [visitMessage_eq, List.flatMap_append, List.flatMap_map,
    List.filterMap_eq_flatMap_toList, List.flatMap_singleton]

end Reading

/-- A form is given messages, and then they are read from a report, in whatever state moves have left it. The
keys are the failing fields, each once, in the order of their first findings. If the message that each was
given last has an answer, these are told, and the functions among the messages were called once for each such
field, in the same order. If one has none and those before it have, the functions up to it were called, and its
failure is that of the reading. In each case the report looks the same afterwards. -/
theorem failing_fields_told (s : Surroundings) (form : Form) (assignments : List (Value × Value))
    (report : Report) (moves : List IndexedReport.Move) :
    let r := ((IndexedReport.ofReport report).moveAll s moves).1
    let read := (form.assignAll assignments).readMessages s r
    let fields := Report.failingFields r.findings
    let latest := form.latestMessage assignments
    read.2 = (form.assignAll assignments).errorMessages s r.plain ∧
    (fields.Nodup ∧ ∀ field, field ∈ fields ↔ ∃ finding ∈ r.findings, finding.field = field) ∧
    (∀ answer : String → Value,
      (∀ field ∈ fields, messageAnswer s (latest field) = .ok (answer field)) →
      read.2 = ⟨fields.filterMap fun field => messageCall? (latest field),
        .ok (fields.map fun field => (field, answer field))⟩) ∧
    (∀ before field after failure, fields = before ++ field :: after →
      (∀ b ∈ before, ∃ v, messageAnswer s (latest b) = .ok v) →
      messageAnswer s (latest field) = .error failure →
        read.2 = ⟨(before ++ [field]).filterMap fun field => messageCall? (latest field),
          .error failure⟩) ∧
    IndexedReport.LooksLike s read.1 r := by
  intro r read fields latest
  have htrue : r.HasTrueIndex := (IndexedReport.hasTrueIndex_ofReport report).moveAll moves
  have hlatest : ∀ field,
      Mapping.getOrNull (form.assignAll assignments).messages (.text field) = latest field :=
    getOrNull_messages_assignAll form assignments
  have hread : read.2 = (form.assignAll assignments).errorMessages s r.plain := readMessages_snd htrue _ s
  refine ⟨hread, ⟨Report.nodup_failingFields _, fun field => Report.mem_failingFields_iff⟩, ?_, ?_, ?_⟩
  · intro answer hanswer
    have htold : ∀ field ∈ fields, messageAnswer s
        (Mapping.getOrNull (form.assignAll assignments).messages (.text field)) =
          .ok (answer field) := by
      simpa only [hlatest] using hanswer
    rw [hread, errorMessages_of_answered s _ r.plain answer htold]
    simp only [hlatest]
    rfl
  · intro before field after failure hsplit hbefore hfailure
    rw [← hlatest] at hfailure
    simp only [← hlatest] at hbefore
    rw [hread, errorMessages_of_failure s _ r.plain hsplit hbefore hfailure]
    simp only [hlatest]
  · exact htrue.grouped.looksLike htrue (IndexedReport.bare_grouped r) s

/-- A form with the message of one field. -/
def noticeForm : Form where
  library := .standard
  schema := ⟨[]⟩
  messages := [(.text "age", .text "Whole years only")]
  related := []

/-- The findings for three fields, among one another. -/
def noticeReport : Report :=
  ⟨[⟨"age", "number"⟩, ⟨"name", "required"⟩, ⟨"age", "max"⟩, ⟨"note", "hex"⟩, ⟨"name", "required"⟩],
    true⟩

/-- Of the messages assigned here, the text for a name is replaced by a function before it is read, and the
function for a code is never called, since the code has not failed. -/
def noticeAssignments : List (Value × Value) :=
  [(.text "code", .function 2), (.text "name", .text "Who?"), (.text "name", .function 0),
    (.text "note", .function 1)]

/-- Functions of which all answer, or all but the first. -/
def noticeAnswers (first : Except Failure Value) : Surroundings where
  answer f _ := if f = 0 then first else .ok .null
  today := Surroundings.silent.today
  stack := Surroundings.silent.stack

/-- If both functions answer, each is called once. If the first fails, the second is not called. -/
theorem failing_fields_told_notice :
    let form := noticeForm.assignAll noticeAssignments
    let r := IndexedReport.ofReport noticeReport
    (form.readMessages (noticeAnswers (.ok (.text "A name"))) r).2 =
      ⟨[⟨0, []⟩, ⟨1, []⟩],
        .ok [("age", .text "Whole years only"), ("name", .text "A name"), ("note", .null)]⟩ ∧
    (form.readMessages (noticeAnswers (.error (.raised .null))) r).2 =
      ⟨[⟨0, []⟩], .error (.raised .null)⟩ := by
  intro form r
  have hfields : Report.failingFields noticeReport.findings = ["age", "name", "note"] := rfl
  constructor
  · obtain ⟨-, -, htold, -, -⟩ := failing_fields_told (noticeAnswers (.ok (.text "A name"))) noticeForm
      noticeAssignments noticeReport []
    refine htold (fun field => if field = "age" then .text "Whole years only" else
      if field = "name" then .text "A name" else .null) fun field hfield => ?_
    have hmem : field ∈ ["age", "name", "note"] := hfields ▸ hfield
    simp only [List.mem_cons, List.not_mem_nil, or_false] at hmem
    rcases hmem with rfl | rfl | rfl <;> rfl
  · obtain ⟨-, -, -, hfails, -⟩ := failing_fields_told (noticeAnswers (.error (.raised .null))) noticeForm
      noticeAssignments noticeReport []
    exact hfails ["age"] "name" ["note"] _ hfields (List.forall_mem_singleton.mpr ⟨_, rfl⟩) rfl

end Form

end FieldRules
