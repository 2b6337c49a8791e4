import FieldRules.Platform.Arguments
import FieldRules.Platform.Truth
import FieldRules.Platform.Wishes

/-!
# How arguments are read

Arguments are read only if the program that makes the settings asks for them. It may also ask for names
that begin with a word of its own or have hyphens in place of underscores, for letters to be told apart,
for another text that stands for the null value, for unknown arguments to be passed over, and for wrong
arguments to be a failure instead of the end of the program.

These, too, are rules of the platform. The service itself asks for none of it.

## Main definitions

* `ArgumentReading` — how arguments are read
* `ArgumentReading.ofWishes` — how the program asks for them to be read
* `ArgumentReading.given` — the settings that arguments give
-/

namespace FieldRules

open Text

/-- How arguments are read. -/
structure ArgumentReading where
  names : List ArgumentName
  /-- Whether capital and small letters are told apart in names. -/
  isExact : Bool
  /-- The argument that stands for the null value, if one does. -/
  nullText? : Option String
  /-- Whether unknown arguments are passed over. -/
  skipsUnknown : Bool
  /-- Whether wrong arguments end the program. -/
  endsProgram : Bool

namespace ArgumentReading

/-! ## Names -/

/-- Whether a text is made of words between points. Only the parts together need to make a word. -/
def isStart (cs : List Char) : Bool :=
  let word := cs.filter (· != '.')
  let isLetter := fun c => c = '_' || (nameLetters.has c && c != '-') || casedLetters.has c
  cs.head? != some '.' && cs.getLast? != some '.' && word.all isLetter &&
    word.head?.any fun c => !isDigit c && !isMark c

/-- How the names of arguments begin after two hyphens. -/
def start (passed : Mapping) : Except Failure String :=
  match Wishes.get? passed "_cli_prefix" with
  | none => .ok ""
  | some (.text start) =>
    if start.isEmpty then .ok ""
    else if isStart start.toList then .ok (start ++ ".")
    else .error (.source (.noArgumentStart start))
  | some v =>
    if v.isFalsy then .ok ""
    else
      match v with
      | .bytes _ => .error .wrongKind
      | _ => .error .noSuchOperation

/-- Whether the names of arguments have hyphens where those of settings have underscores. Any wish
other than a number that is zero asks for it. -/
def hasHyphens (passed : Mapping) : Bool :=
  (Wishes.get? passed "_cli_kebab_case").any fun v => !(v.isFalsy && v.numeric?.isSome)

/-- The name of an argument for a setting. -/
def nameOf (start : String) (hasHyphens : Bool) (setting : String) : ArgumentName :=
  let cs := (start ++ setting).toList
  ⟨"--" ++ String.ofList (if hasHyphens then cs.map fun c => if c = '_' then '-' else c else cs),
    setting⟩

/-! ## Wishes -/

/-- What is wrong with a wish that should be a truth value. -/
def truthFault? (passed : Mapping) (name field : String) : Option Fault :=
  (Wishes.get? passed name).bind fun v =>
    match v.asTruth [.field field] with
    | .ok _ => none
    | .error fault => some fault

/-- What is wrong with the wish for hyphens in names. It may be a truth value or one of two texts, and
each of these is refused by itself. -/
def hyphenFaults (passed : Mapping) : List Fault :=
  match Wishes.get? passed "_cli_kebab_case" with
  | none | some (.text "all") | some (.text "no_enums") => []
  | some v =>
    match v.asTruth [.field "kebab_case", .field "bool"] with
    | .ok _ => []
    | .error fault =>
      [fault, ⟨.needsChoice, [.field "kebab_case", .field "literal['all','no_enums']"]⟩]

/-- Refuses wishes that cannot be met. -/
def check (passed : Mapping) : Except Failure Unit :=
  let faults := (truthFault? passed "_case_sensitive" "case_sensitive").toList ++
    (truthFault? passed "_cli_hide_none_type" "hide_none_type").toList ++ hyphenFaults passed
  if faults.isEmpty then .ok () else .error (.invalid faults)

/-- Whether letters are told apart. Only a truth value can ask for them not to be. -/
def wantsExact (passed : Mapping) : Bool :=
  (Wishes.get? passed "_case_sensitive").any fun v => !(v matches .bool false)

/-- The argument that stands for the null value, if one does. What is asked for variables counts for
arguments too. -/
def nullArgument? (passed : Mapping) : Option String :=
  let wished := ["_env_parse_none_str", "_cli_parse_none_str"].filterMap (Wishes.get? passed)
  match wished.find? Value.isTruthy with
  | some (.text s) => some s
  | some _ => none
  | none =>
    some (if Wishes.get? passed "_cli_avoid_json" matches some (.bool true) then "None" else "null")

/-- How arguments for settings of the given names are to be read. -/
def ofWishes (settings : List String) (passed : Mapping) : Except Failure ArgumentReading := do
  let start ← start passed
  check passed
  return ⟨settings.map (nameOf start (hasHyphens passed)), wantsExact passed, nullArgument? passed,
    Wishes.holds passed "_cli_ignore_unknown_args" false,
    Wishes.holds passed "_cli_exit_on_error" true⟩

/-- The name of a kind of values, with the name of the place it is from. -/
def placedKindName (v : Value) : String :=
  match v with
  | .date _ | .moment _ => "datetime." ++ v.kindName
  | _ => v.kindName

/-- The arguments that a wish for arguments names. A zero names none. -/
def argumentsOf : Value → Except Failure (List String)
  | .bool _ => .ok []
  | .list items | .tuple items =>
    items.mapM fun
      | .text s => .ok s
      | _ => .error .wrongKind
  | v =>
    if v.isFalsy && v.number?.isSome then .ok []
    else .error (.source (.noArguments (placedKindName v)))

/-! ## Arguments -/

/-- The status with which the program ends where its arguments are wrong. -/
def wrongArgumentsStatus : Nat := 2

/-- What comes of wrong arguments. -/
def refuse (reading : ArgumentReading) (fault : SourceFault) : Failure :=
  if reading.endsProgram then .ended wrongArgumentsStatus else .source fault

/-- The value of an argument. -/
def value (reading : ArgumentReading) (content : String) : Value :=
  if reading.nullText? = some content then .null else .text content

/-- An argument as it is read. -/
def folded (reading : ArgumentReading) (argument : String) : String :=
  if reading.isExact then argument
  else
    let known := Arguments.helpNames ++ reading.names.map (·.name)
    String.ofList (Arguments.withSmallName known argument.toList)

/-- The settings that arguments give, in order. -/
def given (reading : ArgumentReading) (arguments : List String) :
    Except Failure (List (String × Value)) :=
  match Arguments.collect (Arguments.classify reading.names (arguments.map reading.folded)) with
  | .error .help => .error (.ended 0)
  | .error (.helpWith value) =>
    .error (reading.refuse (.needlessValue Arguments.helpNames value))
  | .error (.missing name) => .error (reading.refuse (.missingArgument name))
  | .ok (settings, left) =>
    if left.isEmpty || reading.skipsUnknown then
      .ok (settings.map fun (setting, content) => (setting, reading.value content))
    else .error (reading.refuse (.unknownArguments left))

/-- The settings that the arguments asked for give. Unless arguments are asked for, wishes about them
are not looked at. -/
def gather (settings : List String) (passed : Mapping) :
    Except Failure (List (String × Value)) := do
  match Wishes.get? passed "_cli_parse_args" with
  | none => return []
  | some wish =>
    let reading ← ofWishes settings passed
    reading.given (← argumentsOf wish)

end ArgumentReading

end FieldRules
