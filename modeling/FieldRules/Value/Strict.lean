import FieldRules.Value.Equality

/-!
# Comparison without coercion

Two comparisons keep a truth value apart from a number. The strict one also asks that values of any
other kinds are of one kind, and then leaves what they hold to their equality. The deep one does not
distinguish lists from tuples and compares containers part by part with itself. What it does not go
into it treats as the strict one does, except that it takes two results that are no numbers for equal.

## Main definitions

* `Value.strictEqual` — the strict comparison
* `Value.deepEqualAtom` — the deep comparison of what is not gone into
-/

namespace FieldRules.Value

/-- The strict comparison: no coercion between kinds, but numbers of all kinds are compared as
numbers. -/
def strictEqual : Value → Value → Bool
  | .bool b, other => other.isBool b
  | _, .bool _ => false
  | a, b =>
    match a.number?, b.number? with
    | some p, some q => p.equal q
    | none, none => a.kindName = b.kindName && equal a b
    | _, _ => false

/-- The deep comparison of two values that are not gone into. -/
def deepEqualAtom (a b : Value) : Bool :=
  match a.number?, b.number? with
  | some p, some q => p.equal q || (p.isNan && q.isNan)
  | _, _ => strictEqual a b

end FieldRules.Value
