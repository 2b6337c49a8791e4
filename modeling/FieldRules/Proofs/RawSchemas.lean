import FieldRules.Compilation
import Mathlib.Data.List.Forall2

/-!
# Raw schemas and what they are compiled to

What a raw schema says can be told without compiling it. Each of its rules is of one of three sorts,
which its value and the library decide; and what is wrong with it can be listed, in the order in which
it is written. A schema is well formed if that list is empty.

Compiling does both at once. Here its result is related to either side: entry by entry and rule by
rule to the raw schema if there is one, and to the first offence if there is none.

## Main definitions

* `Library.CompilesRule`, `Library.CompilesEntry` — a raw rule or entry and the compiled one
* `Library.offences` — what is wrong with a raw schema, in order
* `RawSchema.HasTextNames` — all fields and kinds are named by texts

## Main statements

* `Library.compile_raw_eq_ok_iff` — a raw schema is compiled entry by entry
* `Library.compile_meets_offences` — it is refused at its first offence, and only for one
-/

namespace FieldRules

namespace Library

variable {lib : Library}

/-! ## What is compiled to what -/

/-- The sorts of rules: a truth value is a flag of a known kind, other values are its options, and an
unknown kind takes a function. -/
inductive CompilesRule (lib : Library) : Value × Value → Rule → Prop
  | flag {key : Value} {kind : String} {b : Bool} (known : lib.contains key = true)
    (text : nameIn "rule_kind" key = .ok kind) : CompilesRule lib (key, .bool b) (.flag kind b)
  | options {key value : Value} {kind : String} (known : lib.contains key = true)
    (text : nameIn "rule_kind" key = .ok kind) (other : ∀ b, value ≠ .bool b) :
    CompilesRule lib (key, value) (.options kind value)
  | inline {key : Value} {kind : String} {f : FunctionId} (unknown : lib.contains key = false)
    (text : nameIn "rule_kind" key = .ok kind) :
    CompilesRule lib (key, .function f) (.inline kind f)

/-- A function checks a whole field, a mapping lists the rules of one. -/
inductive CompilesEntry (lib : Library) : Value × Value → Entry → Prop
  | custom {key : Value} {field : String} {f : FunctionId}
    (text : nameIn "attribute" key = .ok field) :
    CompilesEntry lib (key, .function f) (.custom field f)
  | ruleSet {key : Value} {field : String} {rules : Mapping} {compiled : List Rule}
    (text : nameIn "attribute" key = .ok field)
    (each : List.Forall₂ (CompilesRule lib) rules compiled) :
    CompilesEntry lib (key, .mapping rules) (.ruleSet field compiled)

theorem compileRule_eq_ok_iff (field key value : Value) (rule : Rule) :
    lib.compileRule field key value = .ok rule ↔ CompilesRule lib (key, value) rule := by
  constructor
  · intro h
    cases hknown : lib.contains key <;> simp only [compileRule, hknown, if_true] at h
    · cases value with
      | function f =>
          cases htext : nameIn "rule_kind" key <;> simp [htext, Except.map] at h
          exact h ▸ .inline hknown htext
      | _ => simp at h
    · cases htext : nameIn "rule_kind" key with
      | error failure => simp [htext, Except.map] at h
      | ok kind =>
          cases value with
          | bool b =>
              simp only [htext, Except.map, Except.ok.injEq] at h
              exact h ▸ .flag hknown htext
          | _ =>
              simp only [htext, Except.map, Except.ok.injEq] at h
              exact h ▸ .options hknown htext (by simp)
  · rintro (⟨hknown, htext⟩ | ⟨hknown, htext, hother⟩ | ⟨hunknown, htext⟩)
    · simp [compileRule, hknown, htext, Except.map]
    · cases value <;> simp_all [compileRule, Except.map]
    · simp [compileRule, hunknown, htext, Except.map]

theorem compileRules_eq_ok_iff (field : Value) (rules : Mapping) (compiled : List Rule) :
    lib.compileRules field rules = .ok compiled ↔
      List.Forall₂ (CompilesRule lib) rules compiled := by
  induction rules generalizing compiled with
  | nil => simp [compileRules, eq_comm]
  | cons rule rest ih =>
      obtain ⟨key, value⟩ := rule
      simp only [compileRules, cons_eq_ok_iff, compileRule_eq_ok_iff, ih,
        List.forall₂_cons_left_iff]

theorem compileEntry_eq_ok_iff (key rules : Value) (entry : Entry) :
    lib.compileEntry key rules = .ok entry ↔ CompilesEntry lib (key, rules) entry := by
  constructor
  · intro h
    cases rules with
    | function f =>
        cases htext : nameIn "attribute" key <;> simp [compileEntry, htext, Except.map] at h
        exact h ▸ .custom htext
    | mapping rules =>
        simp only [compileEntry, bind_eq_ok_iff, compileRules_eq_ok_iff] at h
        obtain ⟨compiled, heach, field, htext, hentry⟩ := h
        obtain rfl : .ruleSet field compiled = entry := by simpa [pure, Except.pure] using hentry
        exact .ruleSet htext heach
    | _ => simp [compileEntry] at h
  · rintro (⟨htext⟩ | ⟨htext, heach⟩)
    · simp [compileEntry, htext, Except.map]
    · simp only [compileEntry, bind_eq_ok_iff, compileRules_eq_ok_iff]
      exact ⟨_, heach, _, htext, rfl⟩

theorem compileEntries_eq_ok_iff (entries : Mapping) (compiled : List Entry) :
    lib.compileEntries entries = .ok compiled ↔
      List.Forall₂ (CompilesEntry lib) entries compiled := by
  induction entries generalizing compiled with
  | nil => simp [compileEntries, eq_comm]
  | cons entry rest ih =>
      obtain ⟨key, rules⟩ := entry
      simp only [compileEntries, cons_eq_ok_iff, compileEntry_eq_ok_iff, ih,
        List.forall₂_cons_left_iff]

/-- A raw schema is compiled entry by entry. -/
theorem compile_raw_eq_ok_iff (entries : Mapping) (schema : Schema) :
    lib.compile (.raw (.mapping entries)) = .ok schema ↔
      List.Forall₂ (CompilesEntry lib) entries schema.entries := by
  rw [← compileEntries_eq_ok_iff]
  obtain ⟨compiled⟩ := schema
  cases h : lib.compileEntries entries <;> simp [compile, h, Except.map]

/-! ## What is wrong with a raw schema -/

/-- Where a schema is wrong: the field and the kind of rule, as far as there are any. -/
abbrev Offence := Option Value × Option Value

/-- The rules of a field whose kind is unknown and whose value is no function. -/
def ruleOffences (lib : Library) (field : Value) (rules : Mapping) : List Offence :=
  rules.filterMap fun rule =>
    match rule.2 with
    | .function _ => none
    | _ => if lib.contains rule.1 then none else some (some field, some rule.1)

/-- What is wrong with one field: what is to be checked of it is neither a function nor a mapping, or
its rules are wrong. -/
def entryOffences (lib : Library) (entry : Value × Value) : List Offence :=
  match entry.2 with
  | .function _ => []
  | .mapping rules => lib.ruleOffences entry.1 rules
  | _ => [(some entry.1, none)]

/-- All that is wrong with a raw schema, in the order in which it is written. -/
def offences (lib : Library) : Value → List Offence
  | .mapping entries => entries.flatMap lib.entryOffences
  | _ => [(none, none)]

/-- A result if there are no offences, and a fault at the first one if there are. -/
inductive Meets {α : Type} : List Offence → Except Failure α → Prop
  | ok (a : α) : Meets [] (.ok a)
  | fault (fault : SchemaFault) (rest : List Offence) :
    Meets ((fault.field?, fault.kind?) :: rest) (.error (.schema fault))

theorem Meets.map {α β : Type} {os : List Offence} {result : Except Failure α} (h : Meets os result)
    (f : α → β) : Meets os (result.map f) := by
  cases h with
  | ok a => exact .ok (f a)
  | fault fault rest => exact .fault fault rest

/-- Two results one after the other meet the offences of both. -/
theorem Meets.cons {α : Type} {os os' : List Offence} {first : Except Failure α}
    {others : Except Failure (List α)} (h : Meets os first) (h' : Meets os' others) :
    Meets (os ++ os') (do let a ← first; let as ← others; return a :: as) := by
  cases h with
  | fault fault rest => exact .fault fault (rest ++ os')
  | ok a => exact h'.map (a :: ·)

end Library

namespace RawSchema

/-- All names of rules are texts. -/
def HasTextKinds : Value → Prop
  | .mapping rules => ∀ rule ∈ rules, ∃ kind, rule.1 = .text kind
  | _ => True

/-- All names of fields and of rules are texts. -/
def HasTextNames : Value → Prop
  | .mapping entries =>
    ∀ entry ∈ entries, (∃ field, entry.1 = .text field) ∧ HasTextKinds entry.2
  | _ => True

end RawSchema

namespace Library

variable {lib : Library}

@[simp] theorem nameIn_text (place name : String) : nameIn place (.text name) = .ok name := rfl

theorem compileRules_meets_offences (field : Value) {rules : Mapping}
    (htext : RawSchema.HasTextKinds (.mapping rules)) :
    Meets (lib.ruleOffences field rules) (lib.compileRules field rules) := by
  induction rules with
  | nil => exact .ok []
  | cons rule rest ih =>
      obtain ⟨key, value⟩ := rule
      obtain ⟨⟨kind, rfl⟩, hrest⟩ := List.forall_mem_cons.mp htext
      have hrule : Meets (lib.ruleOffences field [(.text kind, value)])
          (lib.compileRule field (.text kind) value) := by
        cases hknown : lib.contains (.text kind) <;> cases value <;>
          simp only [ruleOffences, compileRule, hknown, nameIn_text, Except.map, if_true,
            Bool.false_eq_true, if_false, List.filterMap_cons, List.filterMap_nil]
        all_goals
          first
          | exact .ok _
          | exact .fault (.unknownKind field (.text kind)) []
      have happend : lib.ruleOffences field ((.text kind, value) :: rest) =
          lib.ruleOffences field [(.text kind, value)] ++ lib.ruleOffences field rest :=
        List.filterMap_append (l := [_])
      rw [happend]
      exact hrule.cons (ih hrest)

theorem compileEntry_meets_offences (field : String) {rules : Value}
    (htext : RawSchema.HasTextKinds rules) :
    Meets (lib.entryOffences (.text field, rules)) (lib.compileEntry (.text field) rules) := by
  cases rules with
  | function f => exact .ok _
  | mapping rules => exact (compileRules_meets_offences (.text field) htext).map (Entry.ruleSet field)
  | _ => exact .fault (.noRules (.text field) _) []

/-- A raw schema with texts for names is refused at its first offence, and for nothing else. -/
theorem compile_meets_offences {schema : Value} (htext : RawSchema.HasTextNames schema) :
    Meets (lib.offences schema) (lib.compile (.raw schema)) := by
  cases schema with
  | mapping entries =>
      suffices h : Meets (lib.offences (.mapping entries)) (lib.compileEntries entries) from
        h.map Schema.mk
      induction entries with
      | nil => exact .ok []
      | cons entry rest ih =>
          obtain ⟨key, rules⟩ := entry
          obtain ⟨⟨⟨field, rfl⟩, hkinds⟩, hrest⟩ := List.forall_mem_cons.mp htext
          exact (compileEntry_meets_offences field hkinds).cons (ih hrest)
  | _ => exact .fault (.noMapping _) []

end Library

end FieldRules
