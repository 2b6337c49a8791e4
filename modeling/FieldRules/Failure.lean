import FieldRules.Platform.Host
import FieldRules.Value.Printed

/-!
# Failures

What can go wrong is told by its cause. A schema is wrong in one of three ways, each found at a
certain field and rule. Fields that must hold text or a number are checked together, and every
fault is reported with its place. An address and the sources of settings can be wrong in ways of their
own. The other failures come from values that are not of the kind an operation needs, from limits, and
from functions that a caller supplies.

## Main definitions

* `SchemaFault` — what is wrong with a schema
* `Fault` — what is wrong with one field, and where
* `AddressFault` — what is wrong with an address
* `SourceFault` — what is wrong with the sources of settings
* `Failure` — why an operation has no result
* `Failure.message?` — the text of a failure, if it has one of its own

## Main statements

* `bind_eq_ok_iff`, `map_eq_ok_iff`, `map_eq_error_iff` — the result of several steps
-/

namespace FieldRules

/-- What is wrong with a schema. -/
inductive SchemaFault where
  /-- It is no mapping. -/
  | noMapping (schema : Value)
  /-- The rules of a field are neither a mapping nor a function. -/
  | noRules (field rules : Value)
  /-- A rule of a field has a kind that the library does not know. -/
  | unknownKind (field kind : Value)
  /-- A compiled rule has a kind that the library has no check for. -/
  | missingCheck (kind : Value)

namespace SchemaFault

/-- The field the fault was found at, if it is known. -/
def field? : SchemaFault → Option Value
  | .noMapping _ => none
  | .noRules field _ => some field
  | .unknownKind field _ => some field
  | .missingCheck _ => none

/-- The kind of rule the fault was found at, if it is known. -/
def kind? : SchemaFault → Option Value
  | .noMapping _ => none
  | .noRules _ _ => none
  | .unknownKind _ kind => some kind
  | .missingCheck kind => some kind

/-- The text of the fault. -/
def message : SchemaFault → String
  | .noMapping schema => "Schema must be a mapping, got " ++ schema.kindName ++ "."
  | .noRules field rules =>
    "Rules for " ++ field.quoted ++ " must be a mapping or a callable, got " ++
      rules.kindName ++ "."
  | .unknownKind _ kind | .missingCheck kind =>
    "Invalid validation type. Validation method doesn't exist: " ++ kind.plain

end SchemaFault

/-- What is wrong with one field. -/
inductive FaultKind where
  | needsText
  /-- The bytes of a text are not well formed. -/
  | needsTextEncoding
  | needsWhole
  /-- A text writes no whole number. -/
  | unreadableWhole
  /-- A text writes a whole number with too many digits. -/
  | oversizedWhole
  /-- A number has a fraction. -/
  | fractionalWhole
  /-- A number is infinite or no number. -/
  | unboundedWhole
  /-- The field cannot be changed. -/
  | isFrozen
  | isMissing
  | needsTruth
  /-- A text or a number stands for no truth value. -/
  | unreadableTruth
  /-- A value is none of those to choose from. -/
  | needsChoice
  | needsMapping
  | needsModel
  | unreadableDocument
  deriving DecidableEq

/-- A step on the way to a field. -/
inductive PathStep where
  | field (name : String)
  | index (n : Nat)
  deriving DecidableEq

/-- What is wrong with a field, and the way to the field. -/
structure Fault where
  kind : FaultKind
  path : List PathStep
  deriving DecidableEq

/-- What is wrong with the address of a request. -/
inductive AddressFault where
  | tooLong
  /-- A control character of ASCII, at a place. -/
  | control (c : Char) (place : Nat)
  | host (kind : Text.Host.Kind) (text : String)
  /-- The number of a socket is none. -/
  | socket (text : String)
  /-- A path alone starts in a way that only a path after a host may. -/
  | pathStart (start : String)

/-- The text of the fault. -/
def AddressFault.message : AddressFault → String
  | .tooLong => "URL too long"
  | .control c place =>
    "Invalid non-printable ASCII character in URL, " ++ Text.quoted (String.singleton c) ++
      " at position " ++ toString place ++ "."
  | .host .fourNumbers text => "Invalid IPv4 address: " ++ Text.quoted text
  | .host .groups text => "Invalid IPv6 address: " ++ Text.quoted text
  | .host .name text => "Invalid IDNA hostname: " ++ Text.quoted text
  | .socket text => "Invalid port: " ++ Text.quoted text
  | .pathStart start => "Relative URLs cannot have a path starting with " ++ Text.quoted start

/-- What is wrong with the sources of settings. -/
inductive SourceFault where
  /-- The name of the variable for a setting cannot be made. -/
  | noVariableName (setting : String)
  /-- The arguments of the program are no list but of another kind. -/
  | noArguments (kind : String)
  /-- The names of arguments cannot start this way. -/
  | noArgumentStart (start : String)
  /-- The value after the name of an argument is missing. -/
  | missingArgument (name : String)
  /-- An argument has a value and cannot have one. -/
  | needlessValue (names : List String) (value : String)
  | unknownArguments (arguments : List String)

/-- The text of the fault. -/
def SourceFault.message : SourceFault → String
  | .noVariableName setting =>
    "error getting value for field \x22" ++ setting ++ "\x22 from source \x22EnvSettingsSource\x22"
  | .noArguments kind =>
    "cli_parse_args must be a list or tuple of strings, received <class '" ++ kind ++ "'>"
  | .noArgumentStart start => "CLI settings source prefix is invalid: " ++ start
  | .needlessValue names value =>
    "error parsing CLI: argument " ++ "/".intercalate names ++ ": ignored explicit argument " ++
      Text.quoted value
  | .missingArgument name => "error parsing CLI: argument " ++ name ++ ": expected one argument"
  | .unknownArguments arguments =>
    "error parsing CLI: unrecognized arguments: " ++ " ".intercalate arguments

/-- Why an operation has no result. -/
inductive Failure where
  | schema (fault : SchemaFault)
  | invalid (faults : List Fault)
  | address (fault : AddressFault)
  | source (fault : SourceFault)
  /-- The program ends with a status, without an answer. -/
  | ended (status : Nat)
  /-- A value is asked for something that values of its kind do not have. -/
  | noSuchOperation
  /-- A value is not of the kind an operation needs. -/
  | wrongKind
  /-- A number is too large to be checked. -/
  | tooLarge
  /-- Values lie too deep in one another to be compared or written. -/
  | tooDeep
  /-- A whole number has too many digits to be written. -/
  | tooManyDigits
  | indexOutOfRange
  /-- An entry is added to a sealed report. -/
  | sealedAgainstAdding
  /-- The entries of a sealed report are replaced. -/
  | sealedAgainstReplacing
  /-- A key is missing. -/
  | missingKey (key : Value)
  /-- A year past the end of the calendar. -/
  | yearOutOfRange (year : Nat)
  /-- An item of a list of pairs has another length than two. -/
  | noPair (index length : Nat)
  /-- A function gave up, with the given reason. -/
  | raised (reason : Value)

/-- The text of a failure, if it has one of its own. -/
def Failure.message? : Failure → Option String
  | .schema fault => some fault.message
  | .address fault => some fault.message
  | .source fault => some fault.message
  | .ended status => some (toString status)
  | .invalid _ | .noSuchOperation | .wrongKind | .tooLarge | .tooDeep | .tooManyDigits |
    .indexOutOfRange => none
  | .sealedAgainstAdding => some "ErrorCollection is sealed; entries cannot be added"
  | .sealedAgainstReplacing => some "ErrorCollection is sealed; entries cannot be replaced"
  | .missingKey key => some key.quoted
  | .yearOutOfRange year => some ("year " ++ toString year ++ " is out of range")
  | .noPair index length =>
    some ("dictionary update sequence element #" ++ toString index ++ " has length " ++
      toString length ++ "; 2 is required")
  | .raised reason => some reason.plain

/-! ## Results of several steps -/

/-- A sequence of two results has a result exactly if both have. -/
theorem bind_eq_ok_iff {α β : Type} {first : Except Failure α} {next : α → Except Failure β} {b : β} :
    (first >>= next) = .ok b ↔ ∃ a, first = .ok a ∧ next a = .ok b := by
  cases first <;> simp [bind, Except.bind]

/-- A list is made of two results exactly if both have one. -/
theorem cons_eq_ok_iff {α : Type} {first : Except Failure α} {others : Except Failure (List α)}
    {all : List α} :
    (do let a ← first; let as ← others; return a :: as) = Except.ok all ↔
      ∃ a as, first = .ok a ∧ others = .ok as ∧ all = a :: as := by
  simp only [bind_eq_ok_iff, pure, Except.pure, Except.ok.injEq, eq_comm (a := all),
    exists_and_left]

/-- A result that is looked at afterwards is there exactly if it was before. -/
theorem map_eq_ok_iff {α β : Type} {result : Except Failure α} {f : α → β} {b : β} :
    result.map f = .ok b ↔ ∃ a, result = .ok a ∧ f a = b := by
  cases result <;> simp [Except.map]

theorem map_eq_error_iff {α β : Type} {result : Except Failure α} {f : α → β} {failure : Failure} :
    result.map f = .error failure ↔ result = .error failure := by
  cases result <;> simp [Except.map]

end FieldRules
