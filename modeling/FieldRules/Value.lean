import FieldRules.Calendar.Moment
import FieldRules.Number.Double

/-!
# Values

Attributes, options, schemas and messages are values. A value is an atom or a container of values;
lists and tuples keep an order, sets hold members without one, and a mapping goes from keys to
values in the order in which the keys came. What goes through a set meets its members in the order in
which they are listed, which may be any. A function is known by its identity alone: what it answers is
not part of the value.

Truth values are kept apart from the numbers zero and one, to which they are nevertheless equal.
Which values are equal is said in `FieldRules.Value.Equality`.

## Main definitions

* `Value` — the values
* `Value.isTruthy` — whether a value counts as true
* `Value.canBeKey` — whether a value can be a key or a member of a set
* `Value.kindName` — the name of a value's kind in messages
* `Value.number?`, `Value.numeric?` — the number a value is, truth values left out or counted in
* `Value.elements?` — what a value yields when it is gone through
-/

namespace FieldRules

/-- The identity of a function. -/
abbrev FunctionId := Nat

/-- A value. -/
inductive Value where
  | null
  | bool (b : Bool)
  | int (n : Int)
  | float (x : Double)
  | text (s : String)
  | bytes (bs : List UInt8)
  | date (d : Day)
  | moment (m : Moment)
  | function (f : FunctionId)
  | list (xs : List Value)
  | tuple (xs : List Value)
  | set (xs : List Value)
  /-- A set that does not change, and so can be a key. -/
  | fixedSet (xs : List Value)
  | mapping (entries : List (Value × Value))
  /-- A check that has a name of its own. -/
  | named (name check : Value)

instance : Inhabited Value := ⟨.null⟩

namespace Value

/-- Whether a value counts as true: empty containers and texts, zeros and the null value do not. -/
def isTruthy : Value → Bool
  | .null => false
  | .bool b => b
  | .int n => n != 0
  | .float x => !(Number.double x).isZero
  | .text s => s != ""
  | .bytes bs => !bs.isEmpty
  | .list xs => !xs.isEmpty
  | .tuple xs => !xs.isEmpty
  | .set xs => !xs.isEmpty
  | .fixedSet xs => !xs.isEmpty
  | .mapping entries => !entries.isEmpty
  | .date _ | .moment _ | .function _ | .named _ _ => true

/-- Whether a value counts as false. -/
def isFalsy (v : Value) : Bool :=
  !v.isTruthy

/-- Whether a value is the truth value `b`, and not merely equal to it. -/
def isBool (b : Bool) : Value → Bool
  | .bool c => c = b
  | _ => false

@[simp] theorem isBool_iff (b : Bool) (v : Value) : v.isBool b = true ↔ v = .bool b := by
  cases v <;> simp [isBool]

/-- The name of a value's kind in messages. -/
def kindName : Value → String
  | .null => "NoneType"
  | .bool _ => "bool"
  | .int _ => "int"
  | .float _ => "float"
  | .text _ => "str"
  | .bytes _ => "bytes"
  | .date _ => "date"
  | .moment _ => "datetime"
  | .function _ => "function"
  | .list _ => "list"
  | .tuple _ => "tuple"
  | .set _ => "set"
  | .fixedSet _ => "frozenset"
  | .mapping _ => "dict"
  | .named _ _ => "PredicateSpec"

mutual

/-- Whether a value can be a key or a member of a set: lists, sets and mappings cannot, nor can a
tuple that holds one. -/
def canBeKey : Value → Bool
  | .list _ | .set _ | .mapping _ => false
  | .tuple xs => allCanBeKeys xs
  | .named name check => name.canBeKey && check.canBeKey
  | _ => true

/-- Whether all the values can be keys. -/
def allCanBeKeys : List Value → Bool
  | [] => true
  | x :: xs => x.canBeKey && allCanBeKeys xs

end

/-- The number a value is. A truth value is no number. -/
def number? : Value → Option Number
  | .int n => some (.whole n)
  | .float x => some (.double x)
  | _ => none

/-- The number a value is equal to, where a truth value counts as zero or one. -/
def numeric? : Value → Option Number
  | .bool b => some (.whole (if b then 1 else 0))
  | v => v.number?

/-- The entries of a mapping. -/
def entries? : Value → Option (List (Value × Value))
  | .mapping entries => some entries
  | _ => none

/-- What a value yields when it is gone through: the members of a container, the keys of a mapping,
the characters of a text, the numbers of bytes. -/
def elements? : Value → Option (List Value)
  | .list xs | .tuple xs | .set xs | .fixedSet xs => some xs
  | .mapping entries => some (entries.map Prod.fst)
  | .text s => some (s.toList.map fun c => .text (String.singleton c))
  | .bytes bs => some (bs.map fun b => .int b.toNat)
  | _ => none

end Value

end FieldRules
