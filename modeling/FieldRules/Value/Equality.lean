import FieldRules.Value

/-!
# Equality of values

Numbers of all kinds are equal if they are exactly the same number, and a truth value is equal to
zero or one. Lists and tuples are compared member by member, sets as sets, mappings key by key. A
function is equal to itself alone.

A result that is no number is not equal to itself. Containers nevertheless find it again by its
identity: there it is the same member, and so a container that holds it is equal to itself. `same`
is the relation that containers use, `equal` the one between two values on their own; they differ on
such results only.

## Main definitions

* `Value.same` — equality of members of containers
* `Value.equal` — equality of values
* `Value.isMember` — membership in a list
-/

namespace FieldRules

/-- Whether two numbers are equal, or the same result that is no number. -/
def Number.same (a b : Number) : Bool :=
  match a, b with
  | .double (.nan i), .double (.nan j) => i = j
  | _, _ => a.equal b

namespace Value

/-- Equality of values that hold no others. -/
def sameAtom : Value → Value → Bool
  | .null, .null => true
  | .text s, .text t => s = t
  | .bytes s, .bytes t => s = t
  | .date d, .date e => d = e
  | .moment m, .moment n => m.same n
  | .function f, .function g => f = g
  | a, b =>
    match a.numeric?, b.numeric? with
    | some p, some q => p.same q
    | _, _ => false

mutual

/-- Equality of members of containers. -/
def same : Value → Value → Bool
  | .list xs, other =>
    match other with
    | .list ys => sameAll xs ys
    | _ => false
  | .tuple xs, other =>
    match other with
    | .tuple ys => sameAll xs ys
    | _ => false
  | .set xs, other =>
    match other with
    | .set ys | .fixedSet ys => xs.length = ys.length && allWithin xs ys
    | _ => false
  | .fixedSet xs, other =>
    match other with
    | .set ys | .fixedSet ys => xs.length = ys.length && allWithin xs ys
    | _ => false
  | .mapping xs, other =>
    match other with
    | .mapping ys => xs.length = ys.length && entriesWithin xs ys
    | _ => false
  | .named name check, other =>
    match other with
    | .named name' check' => same name name' && same check check'
    | _ => false
  | a, b => sameAtom a b
termination_by structural a => a

/-- Equality member by member. -/
def sameAll : List Value → List Value → Bool
  | [], [] => true
  | x :: xs, y :: ys => same x y && sameAll xs ys
  | [], _ :: _ => false
  | _ :: _, [] => false
termination_by structural a => a

/-- Whether each value of the first list is in the second. -/
def allWithin : List Value → List Value → Bool
  | [], _ => true
  | x :: xs, ys => ys.any (same x ·) && allWithin xs ys
termination_by structural a => a

/-- Whether each entry of the first mapping is in the second. -/
def entriesWithin : List (Value × Value) → List (Value × Value) → Bool
  | [], _ => true
  | (k, v) :: rest, ys =>
    ys.any (fun entry => same k entry.1 && same v entry.2) && entriesWithin rest ys
termination_by structural a => a

end

/-- Whether a value is a result that is no number. -/
def isNan : Value → Bool
  | .float (.nan _) => true
  | _ => false

/-- Equality of values. -/
def equal (a b : Value) : Bool :=
  !a.isNan && same a b

/-- Whether a value is a member of a list. -/
def isMember (v : Value) (vs : List Value) : Bool :=
  vs.any (same v ·)

end Value

end FieldRules
