/-!
# The built-in kinds of rules

A rule is known by the name of its kind. The names are all in small letters, since rules may come
from a place where the case of letters is lost.

## Main definitions

* `Kind` — the built-in kinds
* `Kind.name`, `Kind.ofName?` — their names
* `Kind.all` — all of them, in the order in which a library lists them
-/

namespace FieldRules

/-- A built-in kind of rule. -/
inductive Kind where
  | required
  | equals
  | username
  | dateOfBirth
  | over16
  | email
  | url
  | alphanumeric
  | hex
  | string
  | number
  | array
  | date
  | boolean
  | max
  | min
  | length
  | minLength
  | maxLength
  | range
  /-- The value is one of several, or is a part of a text. -/
  | oneOf
  /-- The value is that of another field. -/
  | sameAs
  deriving DecidableEq

namespace Kind

/-- The name of a kind. -/
def name : Kind → String
  | .required => "required"
  | .equals => "equals"
  | .username => "username"
  | .dateOfBirth => "dateofbirth"
  | .over16 => "over16"
  | .email => "email"
  | .url => "url"
  | .alphanumeric => "alphanumeric"
  | .hex => "hex"
  | .string => "string"
  | .number => "number"
  | .array => "array"
  | .date => "date"
  | .boolean => "boolean"
  | .max => "max"
  | .min => "min"
  | .length => "length"
  | .minLength => "minlength"
  | .maxLength => "maxlength"
  | .range => "range"
  | .oneOf => "in"
  | .sameAs => "matches"

/-- All kinds. -/
def all : List Kind :=
  [.required, .equals, .username, .dateOfBirth, .over16, .email, .url, .alphanumeric, .hex,
    .string, .number, .array, .date, .boolean, .max, .min, .length, .minLength, .maxLength,
    .range, .oneOf, .sameAs]

/-- The kind of the given name. -/
def ofName? (name : String) : Option Kind :=
  all.find? (·.name = name)

theorem mem_all (k : Kind) : k ∈ all := by
  cases k <;> decide

@[simp] theorem ofName?_name (k : Kind) : ofName? k.name = some k := by
  cases k <;> decide

theorem name_eq_of_ofName?_eq_some {s : String} {k : Kind} (h : ofName? s = some k) :
    k.name = s := by
  simpa using List.find?_some h

/-- Kinds of one name are one kind. -/
theorem name_injective {a b : Kind} (h : a.name = b.name) : a = b := by
  have := congrArg ofName? h
  simpa using this

end Kind

end FieldRules
