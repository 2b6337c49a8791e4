import FieldRules.Schema

/-!
# Submissions

A submission holds the fields to be checked, a schema, and messages. Each of them may be left out;
other members of the document are passed over. A schema maps fields to mappings from kinds of rules
to options, since a document cannot hold functions. Messages are texts. All faults of a document are
reported, each with the value it was found in: the fields first, then the schema, then the messages,
each in the order of the document.

## Main definitions

* `Submission` — what is submitted
* `Refusal` — a fault of a document, and the value that has it
* `Submission.ofDocument` — the submission in a document, or all its faults
-/

namespace FieldRules

/-- A submission. -/
structure Submission where
  fields : Mapping
  schema : List (Value × Mapping)
  messages : List (Value × String)

/-- A fault of a document, and the value that has it. -/
structure Refusal where
  fault : Fault
  value : Value

namespace Submission

/-- The place of a part of the body. -/
def place (steps : List Value) : List PathStep :=
  .field "body" :: steps.map fun
    | .text s => .field s
    | v => .field v.plain

/-- Checks the values of all entries: all refusals, or all results. -/
def checkEntries {α : Type} (check : Value → Value → Except (List Refusal) α) :
    List (Value × Value) → Except (List Refusal) (List (Value × α))
  | [] => .ok []
  | (key, v) :: rest =>
    match check key v, checkEntries check rest with
    | .ok a, .ok others => .ok ((key, a) :: others)
    | .error refusals, .ok _ => .error refusals
    | .ok _, .error refusals => .error refusals
    | .error first, .error others => .error (first ++ others)

/-- A value that must be a mapping. -/
def asMapping (steps : List Value) : Value → Except (List Refusal) Mapping
  | .mapping entries => .ok entries
  | v => .error [⟨⟨.needsMapping, place steps⟩, v⟩]

/-- A member of the document, an empty mapping if it is left out. -/
def member (document : Mapping) (name : String) : Except (List Refusal) Mapping :=
  match Mapping.get? document (.text name) with
  | some v => asMapping [.text name] v
  | none => .ok []

/-- The schema of a document. -/
def schemaOf (document : Mapping) : Except (List Refusal) (List (Value × Mapping)) :=
  (member document "schema").bind
    (checkEntries fun key v => asMapping [.text "schema", key] v)

/-- The messages of a document. -/
def messagesOf (document : Mapping) : Except (List Refusal) (List (Value × String)) :=
  (member document "messages").bind
    (checkEntries fun key v =>
      (v.asText (place [.text "messages", key])).mapError fun fault => [⟨fault, v⟩])

/-- The refusals of a checked part. -/
def refusalsOf {α : Type} : Except (List Refusal) α → List Refusal
  | .ok _ => []
  | .error refusals => refusals

/-- The submission in a document. -/
def ofDocument : Value → Except (List Refusal) Submission
  | .mapping document =>
    let fields := member document "attributes"
    let schema := schemaOf document
    let messages := messagesOf document
    match fields, schema, messages with
    | .ok fields, .ok schema, .ok messages => .ok ⟨fields, schema, messages⟩
    | _, _, _ => .error (refusalsOf fields ++ refusalsOf schema ++ refusalsOf messages)
  | v => .error [⟨⟨.needsModel, place []⟩, v⟩]

/-- The schema of a submission as a value. -/
def rawSchema (s : Submission) : Value :=
  .mapping (s.schema.map fun entry => (entry.1, .mapping entry.2))

/-- The messages of a submission as a value. -/
def rawMessages (s : Submission) : Value :=
  .mapping (s.messages.map fun entry => (entry.1, .text entry.2))

end Submission

end FieldRules
