import FieldRules.Proofs.TextKeys
import FieldRules.Service

/-!
# What documents can hold

A request brings its values along as a document, and a document can hold less than a caller can hand
over: all its keys are texts, and it has no functions, bytes, days, tuples or sets. This holds whether
the document was written from a value or read from a text.

A submission inherits it. Its fields and kinds have texts for names, and none of its rules comes with a
function.

## Main definitions

* `IsDocumentValue` — the values of documents
* `Submission.IsPlain` — submissions with texts for names and without functions

## Main statements

* `Document.isDocumentValue_of_read`, `Document.isDocumentValue_of_ofValue` — documents, read or written
* `Service.isDocumentValue_of_document?` — what a request that could be written brings along
* `Submission.isPlain_of_ofDocument` — submissions
-/

namespace FieldRules

/-- A value that a document can hold. -/
inductive IsDocumentValue : Value → Prop
  | null : IsDocumentValue .null
  | bool (b : Bool) : IsDocumentValue (.bool b)
  | int (n : Int) : IsDocumentValue (.int n)
  | float (x : Double) : IsDocumentValue (.float x)
  | text (s : String) : IsDocumentValue (.text s)
  | list {xs : List Value} (each : ∀ x ∈ xs, IsDocumentValue x) : IsDocumentValue (.list xs)
  | mapping {entries : Mapping} (keys : ∀ entry ∈ entries, ∃ name, entry.1 = .text name)
    (values : ∀ entry ∈ entries, IsDocumentValue entry.2) : IsDocumentValue (.mapping entries)

namespace IsDocumentValue

theorem entries {entries : Mapping} (h : IsDocumentValue (.mapping entries)) :
    ∀ entry ∈ entries, (∃ name, entry.1 = .text name) ∧ IsDocumentValue entry.2 := by
  cases h with
  | mapping hkeys hvalues => exact fun entry hentry => ⟨hkeys entry hentry, hvalues entry hentry⟩

theorem ne_function {v : Value} (h : IsDocumentValue v) (f : FunctionId) : v ≠ .function f := by
  rintro rfl
  cases h

end IsDocumentValue

namespace Document

/-! ## Reading -/

theorem isDocumentValue_of_takeWord {cs rest : List Char} {v : Value}
    (h : takeWord cs = some (v, rest)) : IsDocumentValue v := by
  obtain ⟨entry, hentry, hword⟩ := List.exists_of_findSome?_eq_some h
  have hv : v = entry.2 := by
    cases hdrop : dropWord? entry.1 cs <;> simp_all
  have hwords : ∀ entry ∈ words, IsDocumentValue entry.2 := by
    simp only [words, List.forall_mem_cons, List.not_mem_nil, false_implies, implies_true, and_true]
    exact ⟨.null, .bool _, .bool _, .float _, .float _, .float _⟩
  exact hv ▸ hwords entry hentry

theorem isDocumentValue_of_takeNumber {cs rest : List Char} {v : Value}
    (h : takeNumber cs = some (.value v, rest)) : IsDocumentValue v := by
  unfold takeNumber at h
  -- Whether the number has a sign does not matter here.
  split at h
  all_goals
    dsimp only at h
    split at h
    · cases h
    · split at h
      · split at h
        · simp at h
        · simp only [Option.some.injEq, Prod.mk.injEq, Outcome.value.injEq] at h
          exact h.1 ▸ .int _
      · simp only [Option.some.injEq, Prod.mk.injEq, Outcome.value.injEq] at h
        exact h.1 ▸ .float _

/-- Members of an object as far as they are read: keys are texts, and values those of a document. -/
def AreMembers (members : Mapping) : Prop :=
  ∀ entry ∈ members, (∃ name, entry.1 = .text name) ∧ IsDocumentValue entry.2

theorem AreMembers.isDocumentValue {members : Mapping} (h : AreMembers members) :
    IsDocumentValue (.mapping members) :=
  .mapping (fun entry hentry => (h entry hentry).1) fun entry hentry => (h entry hentry).2

theorem AreMembers.put {members : Mapping} (h : AreMembers members) (name : String) {v : Value}
    (hv : IsDocumentValue v) : AreMembers (Mapping.put members (.text name) v) :=
  Mapping.forall_mem_put (P := fun key => ∃ name, key = .text name) h ⟨name, rfl⟩ hv

/-- What is read has the values of a document, if what was read before does. -/
theorem isDocumentValue_of_take (fuel : Nat) :
    (∀ {depth cs v rest}, takeValue fuel depth cs = some (.value v, rest) → IsDocumentValue v) ∧
    (∀ {depth items cs v rest}, takeItems fuel depth items cs = some (.value v, rest) →
      (∀ x ∈ items, IsDocumentValue x) → IsDocumentValue v) ∧
    (∀ {depth members cs v rest}, takeMembers fuel depth members cs = some (.value v, rest) →
      AreMembers members → IsDocumentValue v) := by
  induction fuel with
  | zero => simp [takeValue, takeItems, takeMembers]
  | succ fuel ih =>
      obtain ⟨hvalue, hitems, hmembers⟩ := ih
      refine ⟨?_, ?_, ?_⟩
      · intro depth cs v rest h
        unfold takeValue at h
        split at h
        · obtain ⟨_, -, heq⟩ := Option.map_eq_some_iff.mp h
          cases heq
          exact .text _
        · split at h
          · cases h
          · split at h
            · cases h
              exact .list (by simp)
            · exact hitems h (by simp)
        · split at h
          · cases h
          · split at h
            · cases h
              exact .mapping (by simp) (by simp)
            · exact hmembers h (by simp [AreMembers])
        · split at h
          · rename_i hword
            cases h
            exact isDocumentValue_of_takeWord hword
          · exact isDocumentValue_of_takeNumber h
      · intro depth items cs v rest h hall
        unfold takeItems at h
        split at h
        · rename_i hv
          have hnext := List.forall_mem_cons.mpr ⟨hvalue hv, hall⟩
          split at h
          · exact hitems h hnext
          · cases h
            exact .list fun x hx => hnext x (List.mem_reverse.mp hx)
          · cases h
        · rename_i other hother
          exact absurd h (hother _ _)
      · intro depth members cs v rest h hall
        unfold takeMembers at h
        split at h
        · split at h
          · cases h
          · split at h
            · split at h
              · rename_i hv
                split at h
                · exact hmembers h (hall.put _ (hvalue hv))
                · cases h
                  exact (hall.put _ (hvalue hv)).isDocumentValue
                · cases h
              · rename_i other hother
                exact absurd h (hother _ _)
            · cases h
        · cases h

theorem isDocumentValue_of_read {levels : Nat} {cs : List Char} {v : Value}
    (h : read levels cs = .value v) : IsDocumentValue v := by
  unfold read at h
  dsimp only at h
  generalize (if cs.head? = some '\ufeff' then cs.drop 1 else cs) = cs at h
  split at h
  · rename_i hv
    split at h
    · cases h
    · split at h
      · cases h
      · obtain rfl := Outcome.value.inj h
        exact (isDocumentValue_of_take _).1 hv
  · rename_i outcome _ hnot hv
    obtain rfl : outcome = .value v := h
    exact (isDocumentValue_of_take _).1 hv
  · cases h

/-! ## Writing -/

theorem AreMembers.ofEntries {entries : Mapping} (h : AreMembers entries) :
    AreMembers (Mapping.ofEntries entries) := by
  suffices hfold : ∀ members, AreMembers members →
      AreMembers (entries.foldl (fun m entry => Mapping.put m entry.1 entry.2) members) from
    hfold [] (by simp [AreMembers])
  induction entries with
  | nil => exact fun members hmembers => hmembers
  | cons entry rest ih =>
      intro members hmembers
      obtain ⟨hentry, hrest⟩ := List.forall_mem_cons.mp h
      exact ih hrest _ (Mapping.forall_mem_put (P := fun key => ∃ name, key = .text name)
        hmembers hentry.1 hentry.2)

mutual

/-- What is read again when a value was written is the value of a document. -/
theorem isDocumentValue_of_ofValue {levels : Nat} {v w : Value} (h : ofValue levels v = .ok w) :
    IsDocumentValue w := by
  cases v with
  | list xs | tuple xs =>
      unfold ofValue at h
      split at h
      · cases h
      · obtain ⟨ys, hys, rfl⟩ := map_eq_ok_iff.mp h
        exact .list (isDocumentValue_of_ofValues hys)
  | mapping entries =>
      unfold ofValue at h
      split at h
      · cases h
      · obtain ⟨members, hmembers, rfl⟩ := map_eq_ok_iff.mp h
        exact (areMembers_of_ofEntries hmembers).ofEntries.isDocumentValue
  | int n =>
      unfold ofValue at h
      obtain ⟨m, -, rfl⟩ := map_eq_ok_iff.mp h
      exact .int m
  | null => cases h; exact .null
  | bool b => cases h; exact .bool b
  | text s => cases h; exact .text s
  | float x => cases x <;> cases h <;> exact .float _
  | _ => cases h

theorem isDocumentValue_of_ofValues {levels : Nat} {xs ys : List Value}
    (h : ofValues levels xs = .ok ys) : ∀ y ∈ ys, IsDocumentValue y := by
  cases xs with
  | nil => cases h; simp
  | cons x xs =>
      obtain ⟨y, rest, hy, hrest, rfl⟩ := cons_eq_ok_iff.mp h
      exact List.forall_mem_cons.mpr
        ⟨isDocumentValue_of_ofValue hy, isDocumentValue_of_ofValues hrest⟩

theorem areMembers_of_ofEntries {levels : Nat} {entries members : Mapping}
    (h : ofEntries levels entries = .ok members) : AreMembers members := by
  cases entries with
  | nil => cases h; simp [AreMembers]
  | cons entry rest =>
      obtain ⟨name, -, h⟩ := bind_eq_ok_iff.mp h
      obtain ⟨w, hw, h⟩ := bind_eq_ok_iff.mp h
      obtain ⟨others, hothers, h⟩ := bind_eq_ok_iff.mp h
      obtain rfl : (.text name, w) :: others = members := Except.ok.inj h
      exact List.forall_mem_cons.mpr
        ⟨⟨⟨name, rfl⟩, isDocumentValue_of_ofValue hw⟩, areMembers_of_ofEntries hothers⟩

end

end Document

/-! ## Requests -/

/-- What a request that could be written brings along is a document. -/
theorem Service.isDocumentValue_of_document? {stack : Stack} {content : Content} {body : Body}
    {v : Value} (hwrite : content.write stack = .ok body)
    (h : document? stack body = some (.value v)) : IsDocumentValue v := by
  cases content with
  | absent => cases hwrite; cases h
  | text s =>
      cases hwrite
      unfold document? at h
      dsimp only at h
      split at h
      · cases h
      · split at h
        · cases h
        · split at h
          · rename_i hread
            split at h
            · cases h
            · cases h
              exact Document.isDocumentValue_of_read hread
          · rename_i hother
            exact absurd (Option.some.inj h) (hother v)
  | value given =>
      obtain ⟨w, hread, rfl⟩ := map_eq_ok_iff.mp hwrite
      simp only [document?] at h
      split at h
      · cases h
      · cases h
        exact Document.isDocumentValue_of_ofValue hread

namespace Submission

/-- The names of a submission's schema are texts, and none of its rules is a function. -/
def IsPlain (submission : Submission) : Prop :=
  ∀ entry ∈ submission.schema, (∃ field, entry.1 = .text field) ∧
    ∀ rule ∈ entry.2, (∃ kind, rule.1 = .text kind) ∧ ∀ f, rule.2 ≠ .function f

/-- The entries of a document are checked one by one, each under its key. -/
theorem exists_of_checkEntries {α : Type} {check : Value → Value → Except (List Refusal) α}
    {entries : Mapping} {results : List (Value × α)} (h : checkEntries check entries = .ok results) :
    ∀ result ∈ results, ∃ v, (result.1, v) ∈ entries ∧ check result.1 v = .ok result.2 := by
  induction entries generalizing results with
  | nil => cases h; simp
  | cons entry rest ih =>
      obtain ⟨key, v⟩ := entry
      unfold checkEntries at h
      split at h
      · rename_i a others ha hothers
        cases h
        refine List.forall_mem_cons.mpr ⟨⟨v, by simp, ha⟩, fun result hresult => ?_⟩
        obtain ⟨w, hw, hcheck⟩ := ih hothers result hresult
        exact ⟨w, List.mem_cons_of_mem _ hw, hcheck⟩
      all_goals cases h

theorem eq_mapping_of_asMapping {steps : List Value} {v : Value} {entries : Mapping}
    (h : asMapping steps v = .ok entries) : v = .mapping entries := by
  cases v <;> simp_all [asMapping]

/-- A member that is looked up in a document, or the empty one in place of one that is left out. -/
theorem isDocumentValue_of_member {document entries : Mapping} {name : String}
    (hdoc : IsDocumentValue (.mapping document)) (h : member document name = .ok entries) :
    IsDocumentValue (.mapping entries) := by
  unfold member at h
  split at h
  · rename_i v hv
    obtain rfl := eq_mapping_of_asMapping h
    obtain ⟨key, hkey⟩ := Mapping.mem_of_get?_eq_some hv
    exact (hdoc.entries _ hkey).2
  · cases h
    exact .mapping (by simp) (by simp)

theorem isPlain_of_ofDocument {document : Value} {submission : Submission}
    (hdoc : IsDocumentValue document) (h : ofDocument document = .ok submission) :
    submission.IsPlain := by
  unfold ofDocument at h
  split at h
  · rename_i entries
    dsimp only at h
    split at h
    · rename_i fields schema messages _ hschema _
      obtain rfl := Except.ok.inj h
      cases hmember : member entries "schema" with
      | error refusals => simp [schemaOf, hmember, Except.bind] at hschema
      | ok kinds =>
          rw [schemaOf, hmember] at hschema
          have hkinds := (isDocumentValue_of_member hdoc hmember).entries
          intro entry hentry
          obtain ⟨v, hv, hrules⟩ := exists_of_checkEntries hschema entry hentry
          obtain rfl := eq_mapping_of_asMapping hrules
          refine ⟨(hkinds _ hv).1, fun rule hrule => ?_⟩
          obtain ⟨hname, hvalue⟩ := (hkinds _ hv).2.entries rule hrule
          exact ⟨hname, hvalue.ne_function⟩
    · cases h
  · cases h

end Submission

end FieldRules
