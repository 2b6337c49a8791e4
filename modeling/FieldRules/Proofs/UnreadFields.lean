import FieldRules.Proofs.Parts

/-!
# Fields that nobody reads

Every check is handed all the fields, but a schema without functions reads few of them: the fields
it has rules for, and those that these rules compare with. So two mappings that have the same values
for these fields come to the same outcome, be it a report or a failure. What else the mappings hold,
the order of their keys, and whether a missing value was left out or given as null, nobody can tell
from the outcome.

The proof follows the evaluation down: the checks do not tell the mappings apart, so neither do the
rules, the trials of an entry and those of the schema, and what is made of the trials is a function
of them.

## Main definitions

* `Schema.reads` — the names of the fields that a schema reads
* `Mapping.AgreeOn` — mappings that have the same values for some names

## Main statements

* `Schema.mem_reads_iff` — what a schema reads are its fields, and those that they are compared with
* `Schema.trials_congr` — the trials of a schema depend on what it reads
* `Library.validate_of_agreeOn` — and so does the outcome
-/

namespace FieldRules

/-- The names that an entry looks up: its own field, and those that its rules compare with. -/
def Entry.reads (entry : Entry) : List String :=
  entry.field :: entry.ruleList.filterMap Rule.compared?

/-- The names that a schema looks up. -/
def Schema.reads (schema : Schema) : List String :=
  schema.entries.flatMap Entry.reads

/-- What a schema reads are its fields, and the fields that it compares them with. -/
theorem Schema.mem_reads_iff {schema : Schema} {x : String} :
    x ∈ schema.reads ↔ x ∈ schema.fields ∨ ∃ field, schema.Compares field x := by
  simp only [reads, Entry.reads, fields, Compares, List.mem_flatMap, List.mem_cons,
    List.mem_filterMap, List.mem_map]
  constructor
  · rintro ⟨entry, hentry, rfl | hcompared⟩
    · exact .inl ⟨entry, hentry, rfl⟩
    · exact .inr ⟨entry.field, entry, hentry, rfl, hcompared⟩
  · rintro (⟨entry, hentry, rfl⟩ | ⟨field, entry, hentry, -, hcompared⟩)
    · exact ⟨entry, hentry, .inl rfl⟩
    · exact ⟨entry, hentry, .inr hcompared⟩

/-- Two mappings have the same values for some names. A name that is missing has the null value. -/
def Mapping.AgreeOn (names : List String) (items others : Mapping) : Prop :=
  ∀ x ∈ names, getOrNull items (.text x) = getOrNull others (.text x)

theorem Mapping.AgreeOn.mono {names more : List String} {items others : Mapping}
    (h : AgreeOn more items others) (hsub : names ⊆ more) : AgreeOn names items others :=
  fun x hx => h x (hsub hx)

/-- The trials of a schema without functions depend on nothing that it does not read. -/
theorem Schema.trials_congr {s : Surroundings} {items others : Mapping} {schema : Schema}
    (hcompile : Library.standard.compile (.compiled schema) = .ok schema)
    (hplain : schema.HasNoFunctions) (hagree : Mapping.AgreeOn schema.reads items others) :
    schema.trials s .standard items = schema.trials s .standard others := by
  refine List.flatMap_congr fun entry hentry => ?_
  have hreads : Mapping.AgreeOn entry.reads items others :=
    hagree.mono fun x hx => List.mem_flatMap.mpr ⟨entry, hentry, hx⟩
  have hfield := hreads entry.field List.mem_cons_self
  have hcompared : ∀ rule ∈ entry.ruleList, ∀ x, rule.compared? = some x →
      Mapping.getOrNull items (.text x) = Mapping.getOrNull others (.text x) := by
    intro rule hrule x hx
    exact hreads x (List.mem_cons_of_mem _ (List.mem_filterMap.mpr ⟨rule, hrule, hx⟩))
  exact Entry.trials_congr hcompile hplain hentry hfield hcompared

namespace Library

variable {s : Surroundings} {items others : Mapping} {source : SchemaSource} {schema : Schema}

/-- The outcome is made of the trials alone. -/
theorem validate_of_trials_eq {lib : Library} (hcompile : lib.compile source = .ok schema)
    (htrials : schema.trials s lib items = schema.trials s lib others) :
    lib.validate s (.mapping items) source = lib.validate s (.mapping others) source := by
  simp only [validate, hcompile, evaluateAll_eq_ofTrials]
  rw [htrials]

/-- A schema without functions comes to the same outcome on any two mappings that agree on what it
reads, and so to the same findings in the same order, or to the same failure. -/
theorem validate_of_agreeOn (hcompile : standard.compile source = .ok schema)
    (hplain : schema.HasNoFunctions) (hagree : Mapping.AgreeOn schema.reads items others) :
    standard.validate s (.mapping items) source = standard.validate s (.mapping others) source := by
  have hown : standard.compile (.compiled schema) = .ok schema :=
    isUsable_standard.compile_compiled hcompile
  exact validate_of_trials_eq hcompile (Schema.trials_congr hown hplain hagree)

/-- A raw schema with a password that is repeated, and a name that need not be a text. The name
that is compared with has no rules. -/
def repeatedPassword : Value :=
  .mapping [(.text "confirm", .mapping [(.text "matches", .text "pwd")]),
    (.text "nick", .mapping [(.text "string", .bool false), (.text "matches", .bool false)])]

/-- The schema as it is compiled. -/
def repeatedPasswordSchema : Schema :=
  ⟨[.ruleSet "confirm" [.options "matches" (.text "pwd")],
    .ruleSet "nick" [.flag "string" false, .flag "matches" false]]⟩

/-- Other keys, another order, and a null in the place of a missing value: the outcome is the
same. -/
theorem validate_repeatedPassword_congr :
    standard.validate .silent
        (.mapping [(.text "pwd", .text "x"), (.text "confirm", .text "y"), (.int 7, .text "z")])
        (.raw repeatedPassword) =
      standard.validate .silent
        (.mapping [(.text "matches", .bool true), (.text "nick", .null),
          (.text "confirm", .text "y"), (.text "pwd", .text "x")])
        (.raw repeatedPassword) := by
  have hcompile : standard.compile (.raw repeatedPassword) = .ok repeatedPasswordSchema := rfl
  have hplain : repeatedPasswordSchema.HasNoFunctions := by
    simp [repeatedPasswordSchema, Schema.HasNoFunctions, Entry.ruleList, Rule.IsInline]
  have hreads : repeatedPasswordSchema.reads = ["confirm", "pwd", "nick"] := rfl
  refine validate_of_agreeOn hcompile hplain ?_
  rw [hreads]
  intro x hx
  simp only [List.mem_cons, List.not_mem_nil, or_false] at hx
  rcases hx with rfl | rfl | rfl <;> rfl

end Library

end FieldRules
