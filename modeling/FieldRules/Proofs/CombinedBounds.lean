import FieldRules.Proofs.ExactNumbers

/-!
# Two bounds in one rule

A range is a lower and an upper bound, and an exact length is a least and a greatest one. Each of these
rules has a check of its own, which looks at the value and at the bounds in its own order. They come to
the same as the two single bounds nevertheless, for whatever stands in place of a value or a bound: an
empty value passes none of them, and where there is no number on either side, or a result that is no
number, nothing is compared.

For ranges this is so since both ends are compared alike. For lengths it is so since the order of exact
numbers is antisymmetric, whichever of them are whole numbers and which are doubles.

## Main statements

* `Number.equal_eq_le_and_le` — equal is what is neither less nor greater
* `Kind.judgeRange_mapping`, `Kind.judgeLength_and` — the checks made of two
* `Kind.combined_bounds_decompose` — ranges and lengths
-/

namespace FieldRules

namespace Number

variable {a b : Number}

theorem AtMost.denote_same (hab : a.AtMost b) (hba : b.AtMost a) :
    ∃ x, a.Denotes x ∧ b.Denotes x := by
  obtain ⟨x, y, hx, hy, hxy⟩ := hab
  obtain ⟨y', x', hy', hx', hyx⟩ := hba
  obtain rfl := hx.unique hx'
  obtain rfl := hy.unique hy'
  obtain rfl := le_antisymm hxy hyx
  exact ⟨x, hx, hy⟩

/-- Numbers are equal if neither is less than the other and both are numbers. -/
theorem equal_eq_le_and_le (a b : Number) : a.equal b = (b.le a && a.le b) := by
  rw [Bool.eq_iff_iff, Bool.and_eq_true, equal_iff_denotes, le_iff_atMost, le_iff_atMost]
  constructor
  · rintro ⟨x, ha, hb⟩
    exact ⟨⟨x, x, hb, ha, le_refl x⟩, ⟨x, x, ha, hb, le_refl x⟩⟩
  · rintro ⟨hba, hab⟩
    exact hab.denote_same hba

end Number

namespace Kind

/-- A range asks for both of its ends. An end that is missing is the null value. -/
theorem judgeRange_mapping (value : Value) (entries : Mapping) :
    judgeRange value (.mapping entries) =
      (judgeBound (fun n bound => bound.le n) value (Mapping.getOrNull entries (.text "from")) &&
        judgeBound Number.le value (Mapping.getOrNull entries (.text "to"))) := by
  simp only [judgeRange, judgeBound]
  cases value.isTruthy with
  | false => rfl
  | true =>
      cases value.toNumber? with
      | none => rfl
      | some n =>
          cases (Mapping.getOrNull entries (.text "from")).toNumber? <;>
            cases (Mapping.getOrNull entries (.text "to")).toNumber? <;> simp

/-- Two comparisons of a length with one number may be made together. -/
theorem judgeLength_and (first second : Number → Number → Bool) (value options : Value) :
    judgeLength (fun n bound => first n bound && second n bound) value options =
      (judgeLength first value options && judgeLength second value options) := by
  simp only [judgeLength]
  cases value.isTruthy with
  | false => rfl
  | true =>
      cases value.length? with
      | none => rfl
      | some size =>
          cases options.toNumber? with
          | none => rfl
          | some bound =>
              dsimp only
              cases size != 0 <;> rfl

/-- The check of a range, and that of a length, answer with yes exactly if the checks of the two bounds
both do, and with no otherwise: for every value, and whatever is given for the bounds. -/
theorem combined_bounds_decompose (s : Surroundings) (value fields : Value) :
    (∀ entries : Mapping, ∃ p q,
      min.judge s value (Mapping.getOrNull entries (.text "from")) fields = .ok (some p) ∧
      max.judge s value (Mapping.getOrNull entries (.text "to")) fields = .ok (some q) ∧
      range.judge s value (.mapping entries) fields = .ok (some (p && q))) ∧
    ∀ options, ∃ p q,
      minLength.judge s value options fields = .ok (some p) ∧
      maxLength.judge s value options fields = .ok (some q) ∧
      length.judge s value options fields = .ok (some (p && q)) := by
  constructor
  · intro entries
    refine ⟨_, _, rfl, rfl, ?_⟩
    simp only [judge, judgeRange_mapping]
  · intro options
    have hequal : Number.equal = fun n bound => bound.le n && n.le bound :=
      funext fun n => funext fun bound => Number.equal_eq_le_and_le n bound
    refine ⟨_, _, rfl, rfl, ?_⟩
    simp only [judge, hequal, judgeLength_and]

end Kind

end FieldRules
