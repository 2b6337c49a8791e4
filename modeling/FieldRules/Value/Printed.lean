import FieldRules.Number.Shortest
import FieldRules.Text.Quoted
import FieldRules.Value

/-!
# Values in messages

A value is written in full inside a container and where a message quotes a name: texts in quotes,
dates written out as constructions. On its own a text is written as it is, and a date in standard
notation.

## Main definitions

* `Value.quoted` — the value written in full
* `Value.plain` — the value written on its own
-/

namespace FieldRules.Value

/-- Items with commas between them. -/
def commaSeparated (items : List String) : String :=
  ", ".intercalate items

/-- Items in braces. -/
def braced (items : List String) : String :=
  "\x7b" ++ commaSeparated items ++ "\x7d"

mutual

/-- The value written in full. -/
def quoted : Value → String
  | .null => "None"
  | .bool b => if b then "True" else "False"
  | .int n => toString n
  | .float x => x.toText
  | .text s => Text.quoted s
  | .bytes bs => Text.quotedBytes bs
  | .date d => Moment.dayConstruction d
  | .moment m => m.construction
  | .function _ => "<function>"
  | .list xs => "[" ++ commaSeparated (quotedAll xs) ++ "]"
  | .tuple xs =>
    match quotedAll xs with
    | [single] => "(" ++ single ++ ",)"
    | items => "(" ++ commaSeparated items ++ ")"
  | .set xs => if xs.isEmpty then "set()" else braced (quotedAll xs)
  | .fixedSet xs =>
    if xs.isEmpty then "frozenset()" else "frozenset(" ++ braced (quotedAll xs) ++ ")"
  | .mapping entries => braced (quotedEntries entries)
  | .named name check =>
    "PredicateSpec(name=" ++ quoted name ++ ", predicate=" ++ quoted check ++ ")"

/-- Values written in full. -/
def quotedAll : List Value → List String
  | [] => []
  | x :: xs => quoted x :: quotedAll xs

/-- Entries written in full. -/
def quotedEntries : List (Value × Value) → List String
  | [] => []
  | (k, v) :: rest => (quoted k ++ ": " ++ quoted v) :: quotedEntries rest

end

/-- The value written on its own. -/
def plain : Value → String
  | .text s => s
  | .date d => Moment.dayText d
  | .moment m => m.text " "
  | v => v.quoted

end FieldRules.Value
