import FieldRules.Evaluation

/-!
# Forms

A form is a schema that is compiled once, with a message for each field and with the fields that are
checked along with each field. A message is a value, or a function that is called each time the
message is needed.

A single field is checked with the fields related to it and without all others. The fields of the
schema that are not among them are left out, and fields that are missing have the null value.

## Main definitions

* `Form`, `Form.make` — forms
* `Form.validate`, `Form.isValid`, `Form.revalidate` — the checks of all fields and of some
* `Form.message`, `Form.errorMessages` — the messages
-/

namespace FieldRules

/-- The characters of a text, the members of a container and so on, each a pair of a key and a value:
the mapping they make. -/
def Mapping.ofPairs (index : Nat) (made : Mapping) : List Value → Except Failure Mapping
  | [] => .ok made
  | item :: rest =>
    match item.elements? with
    | none => .error .wrongKind
    | some [key, value] => do
      let key ← Mapping.asKey key
      Mapping.ofPairs (index + 1) (Mapping.put made key value) rest
    | some parts => .error (.noPair index parts.length)

/-- The mapping that a value is or makes: pairs of keys and values make one. -/
def Mapping.ofValue : Value → Except Failure Mapping
  | .mapping entries => .ok entries
  | v =>
    match v.elements? with
    | some items => Mapping.ofPairs 0 [] items
    | none => .error .wrongKind

/-- A form. -/
structure Form where
  library : Library
  schema : Schema
  messages : Mapping
  related : List (Value × List Value)

namespace Form

/-- The related fields of each field, which any value that yields them may list. -/
def relatedOf : List (Value × Value) → Except Failure (List (Value × List Value))
  | [] => .ok []
  | (name, fields) :: rest =>
    match fields.elements? with
    | some names => (relatedOf rest).map ((name, names) :: ·)
    | none => .error .wrongKind

/-- A form of a schema, messages and related fields, made in this order. Messages and related fields
that count as false are none. -/
def make (lib : Library) (source : SchemaSource) (messages related : Value) :
    Except Failure Form := do
  let schema ← lib.compile source
  let messages ← if messages.isTruthy then Mapping.ofValue messages else .ok []
  let related ←
    if related.isTruthy then
      match related with
      | .mapping entries => relatedOf entries
      | _ => .error .noSuchOperation
    else .ok []
  return ⟨lib, schema, messages, related⟩

/-- The report on all fields. -/
def validate (s : Surroundings) (form : Form) (data : Value) : Run Report :=
  form.library.validate s data (.compiled form.schema)

/-- The fields related to a field. -/
def relatedFields (form : Form) (name : Value) : Except Failure (List Value) :=
  (Mapping.asKey name).map fun name => (Mapping.get? form.related name).getD []

/-- Adds the values of fields to a mapping, null where they are missing. -/
def collect (data made : Mapping) : List Value → Except Failure Mapping
  | [] => .ok made
  | name :: rest => do
    let name ← Mapping.asKey name
    collect data (Mapping.put made name (Mapping.getOrNull data name)) rest

/-- The values of a field and of its related fields. -/
def fieldData (form : Form) (name data : Value) : Except Failure Mapping :=
  match data with
  | .mapping entries => do
    let related ← form.relatedFields name
    collect entries [] (name :: related)
  | _ => .error .noSuchOperation

/-- The report on some fields by the part of the schema that is about them. -/
def validatePart (s : Surroundings) (form : Form) (part : Mapping) : Run Report :=
  form.library.validate s (.mapping part) (.compiled (form.schema.restrict (Mapping.keys part)))

/-- Whether a field is in no finding of a report. -/
def isClear (report : Report) : Value → Bool
  | .text name => (report.kindsOf? name).isNone
  | _ => true

/-- Whether a field is valid, checked with its related fields. -/
def isValid (s : Surroundings) (form : Form) (name data : Value) : Run Bool := do
  let part ← Run.ofResult (form.fieldData name data)
  let report ← form.validatePart s part
  return isClear report name

/-- Those of a field and its related fields that are valid now. -/
def revalidate (s : Surroundings) (form : Form) (name data : Value) : Run (List Value) := do
  let part ← Run.ofResult (form.fieldData name data)
  let report ← form.validatePart s part
  return (Mapping.keys part).filter (isClear report)

/-- The message of a field, null if it has none. -/
def message (s : Surroundings) (form : Form) (name : Value) : Run Value := do
  let name ← Run.ofResult (Mapping.asKey name)
  match Mapping.getOrNull form.messages name with
  | .function f => Run.call s f []
  | message => return message

/-- The messages of all failing fields of a report, in order. -/
def errorMessages (s : Surroundings) (form : Form) (report : Report) : Run (List (String × Value)) :=
  report.each fun field _ => do
    let message ← form.message s (.text field)
    return (field, message)

/-- Gives a field another message. -/
def setMessage (form : Form) (name message : Value) : Except Failure Form :=
  (Mapping.asKey name).map fun name =>
    { form with messages := Mapping.put form.messages name message }

end Form

end FieldRules
