import FieldRules.Run
import FieldRules.Value.Mapping

/-!
# Functions that a caller can describe

A few functions are simple enough to be described instead of supplied: constants, failures, and
comparisons of the value under check with a fixed value or with another field. The fields are the
last value such a function is given.

## Main definitions

* `Behaviour` — the descriptions
* `Behaviour.answer` — what a described function answers to the values it is given
-/

namespace FieldRules

/-- The description of a function. -/
inductive Behaviour where
  | constant (value : Value)
  | fails (reason : Value)
  /-- Whether the value counts as true. -/
  | isTruthy
  | equals (other : Value)
  | isEven
  /-- The second value given: the options of a rule. -/
  | options
  | equalsField (name : Value)
  | hasField (name : Value)
  | exceedsField (name : Value)

namespace Behaviour

/-- Whether a number is twice a whole number. -/
def evenNumber (n : Number) : Bool :=
  match n.rank? with
  | some (.real q) => (q / 2).den = 1
  | _ => false

/-- Whether the first value is greater: numbers are compared with numbers, texts with texts. -/
def exceeds (a b : Value) : Except Failure Bool :=
  match a, b with
  | .text s, .text t => .ok (decide (t < s))
  | a, b =>
    match a.numeric?, b.numeric? with
    | some p, some q => .ok (q.le p && !p.equal q)
    | _, _ => .error .wrongKind

/-- One of the values given, which has to be there. -/
def given (arguments : List Value) (index : Nat) : Except Failure Value :=
  match arguments[index]? with
  | some v => .ok v
  | none => .error .indexOutOfRange

/-- The fields: the last of the values given. -/
def fields (arguments : List Value) : Except Failure Value :=
  match arguments.getLast? with
  | some v => .ok v
  | none => .error .indexOutOfRange

/-- The answer of a described function to the values it is given. -/
def answer (arguments : List Value) : Behaviour → Except Failure Value
  | .constant value => .ok value
  | .fails reason => .error (.raised reason)
  | .isTruthy => (given arguments 0).map fun v => .bool v.isTruthy
  | .equals other => (given arguments 0).map fun v => .bool (v.equal other)
  | .isEven => do
    match (← given arguments 0).numeric? with
    | some n => return .bool (evenNumber n)
    | none => .error .wrongKind
  | .options => given arguments 1
  | .equalsField name => do
    match ← fields arguments with
    | .mapping items =>
      let name ← Mapping.asKey name
      return .bool ((Mapping.getOrNull items name).equal (← given arguments 0))
    | _ => .error .noSuchOperation
  | .hasField name => do
    match ← fields arguments with
    | .mapping items =>
      let name ← Mapping.asKey name
      return .bool (Mapping.hasKey items name)
    | _ => .error .wrongKind
  | .exceedsField name => do
    let value ← given arguments 0
    match ← fields arguments with
    | .mapping items =>
      let name ← Mapping.asKey name
      match Mapping.get? items name with
      | some other => return .bool (← exceeds value other)
      | none => .error (.missingKey name)
    | _ => .error .wrongKind

end Behaviour

end FieldRules
