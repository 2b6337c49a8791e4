import FieldRules.Library
import FieldRules.Schema

/-!
# Compiling schemas

A raw schema is a mapping from fields to what is to be checked of them: a function, or a mapping
from kinds of rules to their values. Compiling it against a library decides once and for all what
each rule is. A function stands for the whole field. A rule of an unknown kind must come with a
function of its own. A rule of a known kind is a flag if its value is a truth value, and else the
value is handed to the check.

A schema that is compiled already is not compiled again, but the library must know its rules.

## Main definitions

* `SchemaSource` — a raw schema or a compiled one
* `Library.compile` — the compiled schema of a source
-/

namespace FieldRules

/-- What a schema is given as. -/
inductive SchemaSource where
  | raw (schema : Value)
  | compiled (schema : Schema)

namespace Library

/-- A name that must be a text, in a field of the given name. -/
def nameIn (place : String) (name : Value) : Except Failure String :=
  (name.asText [.field place]).mapError fun fault => .invalid [fault]

/-- Compiles one rule of a field. -/
def compileRule (lib : Library) (field kind value : Value) : Except Failure Rule :=
  if lib.contains kind then
    (nameIn "rule_kind" kind).map fun name =>
      match value with
      | .bool expected => .flag name expected
      | value => .options name value
  else
    match value with
    | .function f => (nameIn "rule_kind" kind).map fun name => .inline name f
    | _ => .error (.schema (.unknownKind field kind))

/-- Compiles the rules of a field, in order. -/
def compileRules (lib : Library) (field : Value) : List (Value × Value) → Except Failure (List Rule)
  | [] => .ok []
  | (kind, value) :: rest => do
    let rule ← lib.compileRule field kind value
    let rules ← lib.compileRules field rest
    return rule :: rules

/-- Compiles what is to be checked of one field. -/
def compileEntry (lib : Library) (field rules : Value) : Except Failure Entry :=
  match rules with
  | .function f => (nameIn "attribute" field).map fun name => .custom name f
  | .mapping rules => do
    let rules ← lib.compileRules field rules
    let name ← nameIn "attribute" field
    return .ruleSet name rules
  | rules => .error (.schema (.noRules field rules))

/-- Compiles the entries of a schema, in order. -/
def compileEntries (lib : Library) : List (Value × Value) → Except Failure (List Entry)
  | [] => .ok []
  | (field, rules) :: rest => do
    let entry ← lib.compileEntry field rules
    let entries ← lib.compileEntries rest
    return entry :: entries

/-- Whether a library knows a compiled rule. A rule with a function of its own need not be known. -/
def knows (lib : Library) : Rule → Bool
  | .inline _ _ => true
  | rule => lib.contains (.text rule.kind)

/-- The first rule of an entry that a library does not know. -/
def unknownRule? (lib : Library) (entry : Entry) : Option SchemaFault :=
  (entry.ruleList.find? fun rule => !lib.knows rule).map fun rule =>
    .unknownKind (.text entry.field) (.text rule.kind)

/-- A compiled schema, if the library knows all its rules. -/
def verify (lib : Library) (schema : Schema) : Except Failure Schema :=
  match schema.entries.findSome? lib.unknownRule? with
  | none => .ok schema
  | some fault => .error (.schema fault)

/-- The compiled schema of a source. -/
def compile (lib : Library) : SchemaSource → Except Failure Schema
  | .compiled schema => lib.verify schema
  | .raw (.mapping entries) => (lib.compileEntries entries).map Schema.mk
  | .raw schema => .error (.schema (.noMapping schema))

end Library

end FieldRules
