import FieldRules.Proofs.UnusableOptions

/-!
# True flags and false flags

A rule with a truth value is a flag. It passes if the check answers with the very truth value of the
flag, so that no answer lets a value pass both the true and the false flag of a kind. But the check is
given the flag as its options, and so the two flags ask it two questions. For all kinds but one these
have the same answer: most checks read no options, and to those that do a truth value is as good as no
options at all, whichever it is. Then a value passes one of the two flags, and none of them exactly if
there is no decision.

The exception is the comparison with a given value. The flag is the value it compares with. A truth value
equals itself and not the other one, so that true passes both flags and false passes neither.

## Main statements

* `Kind.judge_flag_eq` — the two questions of a kind have one answer
* `Library.flags_oppose` — what the rules with a true and a false flag come to
* `Library.not_always_flags_oppose` — the exception
-/

namespace FieldRules

variable {s : Surroundings} {kind : Kind} {value fields : Value}

namespace Kind

/-- Which truth value it is does not matter to a check that is given one as its options, unless it
compares with it. -/
theorem judge_flag_eq (h : kind ≠ .equals) (b c : Bool) :
    kind.judge s value (.bool b) fields = kind.judge s value (.bool c) fields := by
  cases kind <;> first | rfl | exact absurd rfl h

/-- Compared with a truth value, only this truth value is equal. -/
theorem judge_equals_flag (b : Bool) :
    equals.judge s value (.bool b) fields = .ok (some (value.isBool b)) := by
  have hanswer := (judge_equals_cases s value (.bool b) fields).resolve_left fun h =>
    Stack.not_endsInStrict_of_depth_eq_zero (.inr rfl) h.1
  rw [hanswer.2]
  cases value <;> simp [Value.strictEqual, Value.isBool, eq_comm]

end Kind

namespace Library

variable {lib : Library}

/-- A flag passes if the check answers with the truth value of the flag. -/
theorem passes_flag (hcheck : lib.check? (.text kind.name) = some (.builtin kind)) (b : Bool) :
    lib.passes s fields value (.flag kind.name b) =
      ⟨[], (kind.judge s value (.bool b) fields).map fun verdict => verdict = some b⟩ := by
  rw [passes_of_builtin (by rintro ⟨_, _, ⟨⟩⟩) hcheck]
  congr 2
  funext verdict
  cases verdict <;> simp [Rule.accepts, Verdict.toValue, Value.isBool]

/-- A truth value of a known kind is compiled to a flag. -/
theorem compileRule_flag (hcheck : lib.check? (.text kind.name) = some (.builtin kind))
    (field : Value) (b : Bool) :
    lib.compileRule field (.text kind.name) (.bool b) = .ok (.flag kind.name b) := by
  unfold compileRule
  rw [if_pos (contains_of_check?_eq_some hcheck)]
  rfl

/-- A truth value makes a flag of every built-in kind, and the check fails for the true and the false
one alike. Where it does not, no value passes both, and a value fails both only if the check comes to no
decision, except that under the comparison with the truth value true passes both and false fails
both. -/
theorem flags_oppose (hcheck : lib.check? (.text kind.name) = some (.builtin kind))
    (s : Surroundings) (value fields : Value) :
    (∀ field b, lib.compileRule field (.text kind.name) (.bool b) = .ok (.flag kind.name b)) ∧
    ((∃ failure, ∀ b, kind.judge s value (.bool b) fields = .error failure ∧
        lib.passes s fields value (.flag kind.name b) = ⟨[], .error failure⟩) ∨
      ∃ p q, lib.passes s fields value (.flag kind.name true) = ⟨[], .ok p⟩ ∧
        lib.passes s fields value (.flag kind.name false) = ⟨[], .ok q⟩ ∧
        (p = true ∧ q = true ↔ kind = .equals ∧ value = .bool true) ∧
        (p = false ∧ q = false ↔ (∀ b, kind.judge s value (.bool b) fields = .ok none) ∨
          kind = .equals ∧ value = .bool false)) := by
  refine ⟨compileRule_flag hcheck, ?_⟩
  simp only [passes_flag hcheck]
  by_cases hkind : kind = .equals
  · subst hkind
    refine .inr ⟨value.isBool true, !value.isBool false, ?_, ?_, ?_, ?_⟩
    all_goals simp only [Kind.judge_equals_flag]
    · cases value.isBool true <;> rfl
    · cases value.isBool false <;> rfl
    · cases value <;> simp [Value.isBool]
    · cases value <;> simp [Value.isBool]
  · have hone : ∀ b, kind.judge s value (.bool b) fields =
        kind.judge s value (.bool true) fields := fun b => Kind.judge_flag_eq hkind b true
    simp only [hone, hkind, false_and, or_false, iff_false, not_and]
    cases kind.judge s value (.bool true) fields with
    | error failure => exact .inl ⟨failure, fun _ => ⟨rfl, rfl⟩⟩
    | ok verdict =>
        refine .inr ⟨verdict = some true, verdict = some false, rfl, rfl, ?_, ?_⟩
        · cases verdict <;> simp
        · rcases verdict with _ | (_ | _) <;> simp

/-- Three words pass one of the two flags about numbers. An empty address passes neither of those about
addresses, since there is no decision on it. -/
theorem flags_of_text :
    (∃ p, standard.passes .silent .null (.text "one two three") (.flag "number" true) = ⟨[], .ok p⟩ ∧
      standard.passes .silent .null (.text "one two three") (.flag "number" false) =
        ⟨[], .ok !p⟩) ∧
    standard.passes .silent .null (.text "") (.flag "url" true) = ⟨[], .ok false⟩ ∧
    standard.passes .silent .null (.text "") (.flag "url" false) = ⟨[], .ok false⟩ := by
  constructor
  · have hcheck : standard.check? (.text Kind.number.name) = some (.builtin .number) :=
      check?_standard "number"
    obtain ⟨-, ⟨failure, hfailure⟩ | ⟨p, q, hp, hq, hboth, hneither⟩⟩ :=
      flags_oppose hcheck .silent (.text "one two three") .null
    · cases (hfailure true).1
    · have hdecided : ¬ ∀ b, Kind.number.judge .silent (.text "one two three")
          (.bool b) .null = .ok none := fun h => by cases h true
      obtain rfl : q = !p := by
        simp only [reduceCtorEq, false_and, iff_false, or_false, hdecided] at hboth hneither
        cases p <;> cases q <;> simp_all
      exact ⟨p, hp, hq⟩
  · have hcheck : standard.check? (.text Kind.url.name) = some (.builtin .url) :=
      check?_standard "url"
    obtain ⟨-, ⟨failure, hfailure⟩ | ⟨p, q, hp, hq, -, hneither⟩⟩ :=
      flags_oppose hcheck .silent (.text "") .null
    · cases (hfailure true).1
    · obtain ⟨rfl, rfl⟩ := hneither.mpr (.inl fun _ => rfl)
      exact ⟨hp, hq⟩

/-- A value can pass both flags of a kind, and it can fail both of them although the check has decided. -/
theorem not_always_flags_oppose :
    (¬ ∀ (kind : Kind) s value fields,
      ¬ (standard.passes s fields value (.flag kind.name true) = ⟨[], .ok true⟩ ∧
        standard.passes s fields value (.flag kind.name false) = ⟨[], .ok true⟩)) ∧
    ¬ ∀ (kind : Kind) s value fields,
      standard.passes s fields value (.flag kind.name true) = ⟨[], .ok false⟩ →
      standard.passes s fields value (.flag kind.name false) = ⟨[], .ok false⟩ →
        kind.judge s value (.bool true) fields = .ok none := by
  constructor
  · intro h
    exact h .equals .silent (.bool true) .null ⟨rfl, rfl⟩
  · intro h
    cases h .equals .silent (.bool false) .null rfl rfl

end Library

end FieldRules
