import FieldRules.Platform.ArgumentReading

/-!
# Sources of settings

Arguments of the program win over what the program itself passes, and this wins over variables of the
environment. A variable sets a setting if its name is the name of the setting after a fixed beginning.
Names may be in capital or small letters.

The program may also ask for the environment to be read otherwise: for names of variables to begin
otherwise or to have their letters told apart, for empty variables not to count, and for a text to stand
for the null value.

The rules are those of the platform that loads settings. The service says only which settings it has, and
how their variables begin.

## Main definitions

* `EnvironmentReading` — how the environment is read
* `Sources` — the sources of settings
* `Sources.gather` — the sources from the environment and from what is passed
* `Sources.value?` — what a setting is set to
-/

namespace FieldRules

open Text

/-- How the environment is read. -/
structure EnvironmentReading where
  /-- How the names of variables begin. -/
  start : String
  /-- Whether capital and small letters are told apart in names. -/
  isExact : Bool
  /-- Whether an empty variable counts as not set. -/
  skipsEmpty : Bool
  /-- The text that stands for the null value, if one does. -/
  nullText? : Option String

/-- The sources of settings. -/
structure Sources where
  reading : EnvironmentReading
  environment : List (String × String)
  passed : Mapping
  /-- The settings that arguments give, in order. -/
  arguments : List (String × Value)

namespace Sources

/-! ## Names -/

/-- A name in small letters. -/
def lowerName (s : String) : String :=
  String.ofList (lower s.toList)

/-- Whether a value is a text that is the given name, in capital or small letters. -/
def isName (name : String) : Value → Bool
  | .text s => lowerName s = lowerName name
  | _ => false

end Sources

namespace EnvironmentReading

/-- Whether a variable sets the setting of a name. -/
def isSet (reading : EnvironmentReading) (name : String) (variableName content : String) : Bool :=
  let wanted := reading.start ++ name
  (if reading.isExact then variableName = wanted
      else Sources.lowerName variableName = Sources.lowerName wanted) &&
    !(reading.skipsEmpty && content.isEmpty)

/-- The value of a variable. -/
def value (reading : EnvironmentReading) (content : String) : Value :=
  if reading.nullText? = some content then .null else .text content

end EnvironmentReading

namespace Sources

/-! ## Wishes -/

/-- How the names of variables begin if nothing else is asked for. -/
def standardStart : String := "FORMCHECK_"

/-- How the names of variables begin. Only texts can be put before other texts. -/
def start (passed : Mapping) : Except Failure String :=
  match Wishes.get? passed "_env_prefix" with
  | none => .ok standardStart
  | some (.text start) => .ok start
  | some _ => .error (.source (.noVariableName "log_level"))

/-- Refuses a beginning of names that has no length. -/
def checkStart (passed : Mapping) : Except Failure Unit :=
  if (Wishes.get? passed "_env_prefix").all fun v => v.elements?.isSome then .ok () else .error .wrongKind

/-- Refuses a bound on parts of names that is no number. -/
def checkParts (passed : Mapping) : Except Failure Unit :=
  if (Wishes.get? passed "_env_nested_max_split").all fun v => v.isFalsy || v.numeric?.isSome then .ok ()
  else .error .wrongKind

/-- Refuses what names no files: neither a text nor a collection of texts. -/
def checkFiles (passed : Mapping) (name : String) : Except Failure Unit :=
  match Wishes.get? passed name with
  | none | some (.text _) => .ok ()
  | some v =>
    if (v.elements?).any fun items => items.all (· matches .text _) then .ok ()
    else .error .wrongKind

/-! ## All sources -/

/-- The sources from the environment and from what is passed, for settings of the given names. -/
def gather (settings : List String) (environment : List (String × String)) (passed : Mapping) :
    Except Failure Sources := do
  if !(Mapping.keys passed).all (· matches .text _) then throw .wrongKind
  checkStart passed
  checkParts passed
  checkFiles passed "_env_file"
  let arguments ← ArgumentReading.gather settings passed
  let start ← start passed
  checkFiles passed "_secrets_dir"
  let reading : EnvironmentReading :=
    ⟨start, Wishes.holds passed "_case_sensitive" false, Wishes.holds passed "_env_ignore_empty" false,
      Wishes.text? passed "_env_parse_none_str"⟩
  return ⟨reading, environment, passed, arguments⟩

/-- What a setting is set to, if it is: by the last argument, else the first value passed by its name,
else the last variable that sets it. -/
def value? (sources : Sources) (name : String) : Option Value :=
  match sources.arguments.reverse.lookup name,
    sources.passed.find? fun entry => isName name entry.1 with
  | some v, _ => some v
  | none, some entry => some entry.2
  | none, none =>
    (sources.environment.reverse.find? fun entry =>
      sources.reading.isSet name entry.1 entry.2).map fun entry => sources.reading.value entry.2

end Sources

end FieldRules
