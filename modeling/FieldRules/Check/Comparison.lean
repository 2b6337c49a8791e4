import FieldRules.Failure
import FieldRules.Stack
import FieldRules.Value.Mapping
import FieldRules.Value.Strict

/-!
# Comparisons that can end early

The checks compare values in two ways. The strict comparison leaves values of one kind to their equality,
which goes down into them. The deep comparison goes down into lists, tuples and mappings by itself, up to the
first difference, and treats what else it comes to as the strict one does. Neither of them looks how deep the
values lie, so each ends without an answer where the stack does.

## Main definitions

* `Value.compareStrict` — the strict comparison
* `Value.compareDeep` — the deep comparison
-/

namespace FieldRules.Value

/-- Whether the strict comparison leaves two values to their equality: they are of one kind, and no truth
values or numbers. -/
def isLeftToEquality (a b : Value) : Bool :=
  a.numeric?.isNone && a.kindName = b.kindName

/-- The strict comparison, as far as the stack suffices. -/
def compareStrict (stack : Stack) (a b : Value) : Except Failure Bool :=
  if a.isLeftToEquality b && stack.endsInEquality a b then .error .tooDeep
  else .ok (a.strictEqual b)

mutual

/-- The deep comparison so many levels down, as far as the stack suffices. -/
def compareDeep (stack : Stack) (level : Nat) (a b : Value) : Except Failure Bool :=
  if stack.endsInDeep level a b then .error .tooDeep
  else
    match a with
    | .list xs =>
      match b with
      | .list ys | .tuple ys =>
        if xs.length = ys.length then compareAll stack (level + 1) xs ys else .ok false
      | _ => .ok false
    | .tuple xs =>
      match b with
      | .list ys | .tuple ys =>
        if xs.length = ys.length then compareAll stack (level + 1) xs ys else .ok false
      | _ => .ok false
    | .mapping xs =>
      match b with
      | .mapping ys =>
        if Mapping.haveSameKeys xs ys then compareEntries stack (level + 1) xs ys else .ok false
      | _ => .ok false
    | a => .ok (a.deepEqualAtom b)

/-- The deep comparison member by member, up to the first pair that differs. -/
def compareAll (stack : Stack) (level : Nat) : List Value → List Value → Except Failure Bool
  | x :: xs, y :: ys =>
    match compareDeep stack level x y with
    | .ok true => compareAll stack level xs ys
    | other => other
  | _, _ => .ok true

/-- The deep comparison of the values under the same keys, up to the first that differ. -/
def compareEntries (stack : Stack) (level : Nat) :
    List (Value × Value) → List (Value × Value) → Except Failure Bool
  | [], _ => .ok true
  | (k, v) :: rest, ys =>
    match Mapping.get? ys k with
    | some w =>
      match compareDeep stack level v w with
      | .ok true => compareEntries stack level rest ys
      | other => other
    | none => .ok false

end

end FieldRules.Value
