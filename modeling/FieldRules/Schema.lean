import FieldRules.Run
import FieldRules.Value.Mapping

/-!
# Compiled schemas

A compiled schema lists, for each field in order, either one function that checks the whole field or
the rules of the field. A rule is a flag that a check has to answer with exactly, a function given in
place of a check, or options that are handed to a check.

Names are texts here; a field or a kind whose name is no text is refused on the way. Bytes that
encode a text count as the text.

## Main definitions

* `Rule`, `Entry`, `Schema` — rules, entries and schemas
* `Schema.fields`, `Schema.entry?`, `Schema.restrict` — the parts of a schema
* `Value.asText` — the text of a value
-/

namespace FieldRules

/-- The text of a value, or what is wrong with the field that should hold it. -/
def Value.asText (path : List PathStep) : Value → Except Fault String
  | .text s => .ok s
  | .bytes bs =>
    match String.fromUTF8? ⟨bs.toArray⟩ with
    | some s => .ok s
    | none => .error ⟨.needsTextEncoding, path⟩
  | _ => .error ⟨.needsText, path⟩

/-- A rule of a field. -/
inductive Rule where
  | flag (kind : String) (expected : Bool)
  | inline (kind : String) (function : FunctionId)
  | options (kind : String) (options : Value)

/-- The kind of a rule. -/
def Rule.kind : Rule → String
  | .flag kind _ | .inline kind _ | .options kind _ => kind

/-- What is to be checked of one field. -/
inductive Entry where
  /-- One function checks the field. -/
  | custom (field : String) (function : FunctionId)
  | ruleSet (field : String) (rules : List Rule)

namespace Entry

/-- The field of an entry. -/
def field : Entry → String
  | .custom field _ | .ruleSet field _ => field

/-- The rules of an entry; a field checked by one function has none. -/
def ruleList : Entry → List Rule
  | .custom _ _ => []
  | .ruleSet _ rules => rules

end Entry

/-- A compiled schema. -/
structure Schema where
  entries : List Entry

namespace Schema

/-- The fields in order. -/
def fields (schema : Schema) : List String :=
  schema.entries.map Entry.field

/-- The first entry of a field. -/
def entry? (schema : Schema) (field : Value) : Option Entry :=
  schema.entries.find? fun entry => (Value.text entry.field).same field

/-- The entries of the given fields, in the order of the schema. -/
def restrict (schema : Schema) (fields : List Value) : Schema :=
  ⟨schema.entries.filter fun entry => (Value.text entry.field).isMember fields⟩

/-- The entries of the fields that a value yields. -/
def restrictTo (schema : Schema) (fields : Value) : Except Failure Schema :=
  match fields.elements? with
  | some names =>
    if names.all Value.canBeKey then .ok (schema.restrict names) else .error .wrongKind
  | none => .error .wrongKind

end Schema

end FieldRules
