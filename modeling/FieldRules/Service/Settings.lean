import FieldRules.Platform.Sources
import FieldRules.Platform.Whole

/-!
# Settings of the service

Each setting has a default, which counts where no source sets it. All settings are checked and their
faults are reported together.

## Main definitions

* `Settings` — the settings
* `Settings.load` — the settings from the environment and from what is passed
-/

namespace FieldRules

open Text

/-- The settings of the service. -/
structure Settings where
  logLevel : String
  /-- The most fields a schema may have. -/
  maxFields : Int
  title : String
  version : String

namespace Settings

/-- The settings without any choice made. -/
def standard : Settings :=
  ⟨"INFO", 500, "FormCheck", "0.1.0"⟩

/-- The names of the settings. -/
def names : List String :=
  ["log_level", "max_attributes", "app_title", "app_version"]

/-- The bound of the whole numbers that a double is taken for: its size is below it. -/
def doubleBound : Nat := 0x8000000000000000

/-- The whole number that a text writes, or what is wrong with it. -/
def wholeOfText (path : List PathStep) (s : String) : Except Fault Int :=
  match WholeReading.ofText s.toList with
  | .read n => .ok n
  | .unreadable => .error ⟨.unreadableWhole, path⟩
  | .oversized => .error ⟨.oversizedWhole, path⟩

/-- The whole number of a value, or what is wrong with it. Truth values and numbers without a
fraction count, and texts that write such a number. -/
def asWhole (path : List PathStep) (v : Value) : Except Fault Int :=
  match v with
  | .int n => .ok n
  | .bool b => .ok (if b then 1 else 0)
  | .float (.finite q) =>
    if q.den != 1 then .error ⟨.fractionalWhole, path⟩
    else if doubleBound ≤ q.num.natAbs then .error ⟨.oversizedWhole, path⟩
    else .ok q.num
  | .float .negativeZero => .ok 0
  | .float _ => .error ⟨.unboundedWhole, path⟩
  | .text s => wholeOfText path s
  | .bytes _ =>
    match v.asText path with
    | .ok s => wholeOfText path s
    | .error _ => .error ⟨.unreadableWhole, path⟩
  | _ => .error ⟨.needsWhole, path⟩

/-- A setting with its default, checked. -/
def read {α : Type} (source : Option Value) (fallback : α) (check : Value → Except Fault α) :
    Except Fault α :=
  match source with
  | some v => check v
  | none => .ok fallback

/-- The fault of a checked setting. -/
def faultOf {α : Type} : Except Fault α → List Fault
  | .ok _ => []
  | .error fault => [fault]

/-- The settings that the environment and what is passed make. -/
def load (environment : List (String × String)) (passed : Mapping) : Except Failure Settings := do
  let sources ← Sources.gather names environment passed
  let textOf := fun (name fallback : String) =>
    read (sources.value? name) fallback (Value.asText [.field name])
  let logLevel := textOf "log_level" standard.logLevel
  let maxFields :=
    read (sources.value? "max_attributes") standard.maxFields (asWhole [.field "max_attributes"])
  let title := textOf "app_title" standard.title
  let version := textOf "app_version" standard.version
  match logLevel, maxFields, title, version with
  | .ok logLevel, .ok maxFields, .ok title, .ok version =>
    .ok ⟨logLevel, maxFields, title, version⟩
  | _, _, _, _ =>
    .error (.invalid (faultOf logLevel ++ faultOf maxFields ++ faultOf title ++ faultOf version))

end Settings

end FieldRules
