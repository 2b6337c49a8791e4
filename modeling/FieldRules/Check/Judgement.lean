import FieldRules.Calendar.Written
import FieldRules.Check.Comparison
import FieldRules.Check.Kind
import FieldRules.Check.Measure
import FieldRules.Check.Pattern
import FieldRules.Run

/-!
# The built-in checks

Each built-in kind judges a value with respect to the options of the rule and to all fields. A
judgement may be inconclusive, which is how the checks of optional texts answer to an empty value;
rules about bounds and lengths refuse an empty value instead.

Some checks can fail. A date may hold a number too large to be checked, and a date of birth may lie
so late that no day sixteen years after it exists. Comparing with another field needs a mapping of
fields, and whatever values are compared with, one of options or another field, the stack may end before
it is known whether they are the same.

## Main definitions

* `Verdict` — the answer of a check
* `Kind.judge` — the answer of each built-in check
-/

namespace FieldRules

open Text

/-- The answer of a check: valid, invalid, or no decision. -/
abbrev Verdict := Option Bool

/-- A verdict as a value. -/
def Verdict.toValue : Verdict → Value
  | some b => .bool b
  | none => .null

namespace Value

/-- Whether a value is a text of a shape. -/
def hasShape (shape : Shape) : Value → Bool
  | .text s => shape.fits s.toList
  | _ => false

/-- Whether a value is a text that holds the given character. -/
def holdsChar (c : Char) : Value → Bool
  | .text s => s.toList.contains c
  | _ => false

/-- The day of a value that is a date of birth. -/
def birthDay? : Value → Option Day
  | .text s => FieldRules.birthDay? s.toList
  | _ => none

end Value

/-- Whether a text occurs in another one. -/
def occursIn (part : List Char) : List Char → Bool
  | [] => part.isEmpty
  | c :: rest => part.isPrefixOf (c :: rest) || occursIn part rest

namespace Kind

/-- The age, in years, that the rule about age asks for. -/
def leastAge : Nat := 16

/-- Compares the numbers of a value and of the options, where both have one and the value is not
empty. -/
def judgeBound (compare : Number → Number → Bool) (value options : Value) : Bool :=
  value.isTruthy &&
    match value.toNumber?, options.toNumber? with
    | some n, some bound => compare n bound
    | _, _ => false

/-- Compares the length of a value with the number of the options, where both have one and the value
is not empty. -/
def judgeLength (compare : Number → Number → Bool) (value options : Value) : Bool :=
  value.isTruthy &&
    match value.length?, options.toNumber? with
    | some size, some bound => size != 0 && compare (.whole size) bound
    | _, _ => false

/-- Whether the number of a value lies between two bounds. -/
def judgeRange (value options : Value) : Bool :=
  value.isTruthy &&
    match options with
    | .mapping entries =>
      match value.toNumber?, (Mapping.getOrNull entries (.text "from")).toNumber?,
        (Mapping.getOrNull entries (.text "to")).toNumber? with
      | some n, some low, some high => low.le n && n.le high
      | _, _, _ => false
    | _ => false

/-- Whether a value is one of several, which are compared with it up to the first that it is. -/
def judgeAmong (stack : Stack) (value : Value) : List Value → Except Failure Bool
  | [] => .ok false
  | v :: vs =>
    match value.compareStrict stack v with
    | .ok false => judgeAmong stack value vs
    | other => other

/-- Whether a value is one of the options, or a text that occurs in a text. -/
def judgeOneOf (stack : Stack) (value options : Value) : Except Failure Bool :=
  match options with
  | .text t =>
    match value with
    | .text s => .ok (occursIn s.toList t.toList)
    | _ => .ok false
  | .list vs | .tuple vs | .set vs | .fixedSet vs => judgeAmong stack value vs
  | _ => .ok false

/-- The value of the field that the options name, null if they name none. -/
def namedField (options fields : Value) : Except Failure Value :=
  match options with
  | .text _ =>
    if fields.isFalsy then .ok .null
    else
      match fields with
      | .mapping entries => .ok (Mapping.getOrNull entries options)
      | _ => .error .noSuchOperation
  | _ => .ok .null

/-- Whether a value is the value of the field that the options name. -/
def judgeSameAs (stack : Stack) (value options fields : Value) : Except Failure Bool :=
  (namedField options fields).bind (value.compareDeep stack 0 ·)

/-- Whether a value is a number or a moment, or a text that is a date. -/
def judgeDate : Value → Except Failure Bool
  | .date _ | .moment _ | .int _ | .float _ => .ok true
  | .text s =>
    match readDate s.toList with
    | .accepted => .ok true
    | .refused => .ok false
    | .tooLarge => .error .tooLarge
  | _ => .ok false

/-- Whether someone born on the day that a value writes is old enough today. -/
def judgeAge (today : Day) (value : Value) : Except Failure Bool :=
  match value.birthDay? with
  | none => .ok false
  | some born =>
    match born.addYears? leastAge with
    | some day => .ok (day.le today)
    | none => .error (.yearOutOfRange (born.year + leastAge))

/-- No decision for an empty value, and the judgement otherwise. -/
def unlessEmpty (value : Value) (judgement : Except Failure Bool) : Except Failure Verdict :=
  if value.isFalsy then .ok none else judgement.map some

/-- The answer of each built-in check to a value, the options of its rule and all fields. -/
def judge (s : Surroundings) (kind : Kind) (value options fields : Value) : Except Failure Verdict :=
  let decided : Bool → Except Failure Verdict := fun b => .ok (some b)
  match kind with
  | .required =>
    match value with
    | .null => decided false
    | .text t => decided (t != "")
    | _ => decided true
  | .equals => (value.compareStrict s.stack options).map some
  | .username =>
    unlessEmpty value (.ok (if value.holdsChar '@' then value.hasShape Pattern.email
      else value.startsWithNumber))
  | .dateOfBirth => unlessEmpty value (.ok value.birthDay?.isSome)
  | .over16 => unlessEmpty value (judgeAge s.today value)
  | .email => decided (value.hasShape Pattern.email)
  | .url => unlessEmpty value (.ok (value.hasShape Pattern.url))
  | .alphanumeric => decided (value.hasShape Pattern.word)
  | .hex => decided (value.hasShape Pattern.colour)
  | .string => decided (value matches .text _)
  | .number => decided value.startsWithNumber
  | .array => decided (value matches .list _ | .tuple _)
  | .date => unlessEmpty value (judgeDate value)
  | .boolean => decided (value matches .bool _)
  | .max => decided (judgeBound Number.le value options)
  | .min => decided (judgeBound (fun n bound => bound.le n) value options)
  | .length => decided (judgeLength Number.equal value options)
  | .minLength => decided (judgeLength (fun n bound => bound.le n) value options)
  | .maxLength => decided (judgeLength Number.le value options)
  | .range => decided (judgeRange value options)
  | .oneOf => (judgeOneOf s.stack value options).map some
  | .sameAs => (judgeSameAs s.stack value options fields).map some

end Kind

end FieldRules
