import FieldRules.Failure
import FieldRules.Text.Blank
import FieldRules.Text.Case
import FieldRules.Text.Digit

/-!
# Arguments of the program

A setting may be given by arguments: a name that starts with two hyphens, and the value as the next
argument or after an equals sign. The value of a name that is given twice is the last one. An argument
that starts with a hyphen looks like a name, unless it is a hyphen alone, a negative number, or holds a
space. After an argument of two hyphens nothing is taken for a name.

Two more names ask for help, a long and a short one. They have no value. The short name may stand for
several in a row if their letters are written together.

The rules are those of the platform that reads arguments, not of the service.

## Main definitions

* `ArgumentName` — the name of an argument, with the setting that it gives
* `Argument` — what an argument is taken for
* `Arguments.classify` — arguments with what they are taken for
* `Arguments.collect` — the settings that arguments give, and the arguments left over
-/

namespace FieldRules

open Text

/-- The name of an argument, with the setting that it gives. -/
structure ArgumentName where
  name : String
  setting : String
  deriving DecidableEq

/-- What an argument is taken for. -/
inductive Argument where
  /-- The name of an argument, with its value if an equals sign and a value follow it. -/
  | name (name : ArgumentName) (value? : Option String)
  /-- The wish for help. -/
  | help
  /-- The wish for help with a value, which it cannot have. -/
  | helpWith (value : String)
  /-- What looks like a name and is none. -/
  | unknown
  | plain

/-- Why arguments cannot be read. -/
inductive ArgumentFault where
  /-- The value after a name is missing. -/
  | missing (name : String)
  /-- The wish for help has a value. -/
  | helpWith (value : String)
  /-- Help is asked for. -/
  | help

namespace Arguments

/-- The names that ask for help. -/
def helpNames : List String := ["-h", "--help"]

/-- Whether a text is a negative number: digits after a hyphen, with at most one point, which is not
the last of them. An end of line may follow. -/
def isNegativeNumber (cs : List Char) : Bool :=
  match cs with
  | '-' :: rest =>
    let rest := if rest.getLast? = some '\n' then rest.dropLast else rest
    match rest.dropWhile isDigit with
    | [] => !rest.isEmpty
    | '.' :: fraction => !fraction.isEmpty && fraction.all isDigit
    | _ => false
  | _ => false

/-- An argument with its name in small letters, if this is a known one. Of what follows a name only the
first line is kept, whether it is known or not. A negative number has no name. -/
def withSmallName (known : List String) (cs : List Char) : List Char :=
  let isInName := fun c => !(isBlank c || c = '=')
  match cs with
  | '-' :: rest =>
    if rest.head?.any isInName && !isNegativeNumber cs then
      let name := '-' :: rest.takeWhile isInName
      let small := lower name
      (if known.contains (String.ofList small) then small else name) ++
        (rest.dropWhile isInName).takeWhile (· != '\n')
    else cs
  | _ => cs

/-- The wish for help with a text after its short name. As many letters as ask for help again are no
part of a value. -/
def shortHelpWith (text : List Char) : Argument :=
  let value := text.dropWhile (· = 'h')
  if value.isEmpty && !text.isEmpty then .help else .helpWith (String.ofList value)

/-- The wish for help that a text is, if it is one. -/
def help? : List Char → Option Argument
  | ['-', 'h'] => some .help
  | '-' :: 'h' :: '=' :: text | '-' :: 'h' :: text => some (shortHelpWith text)
  | cs =>
    if cs.takeWhile (· != '=') = "--help".toList then
      match cs.dropWhile (· != '=') with
      | _ :: value => some (.helpWith (String.ofList value))
      | [] => some .help
    else none

/-- What an argument is taken for, where the arguments for settings have the given names. -/
def kindOf (names : List ArgumentName) (argument : String) : Argument :=
  let cs := argument.toList
  let before := String.ofList (cs.takeWhile (· != '='))
  match names.find? fun name => name.name = before with
  | some name =>
    match cs.dropWhile (· != '=') with
    | _ :: value => .name name (some (String.ofList value))
    | [] => .name name none
  | none =>
    match help? cs with
    | some wish => wish
    | none =>
      if cs.head? != some '-' || cs = ['-'] || isNegativeNumber cs || cs.contains ' ' then .plain
      else .unknown

/-- Arguments with what they are taken for. -/
def classify (names : List ArgumentName) : List String → List (String × Argument)
  | [] => []
  | argument :: rest =>
    if argument = "--" then (argument, .unknown) :: rest.map fun other => (other, .plain)
    else (argument, kindOf names argument) :: classify names rest

/-- The settings that arguments give, in order, and the arguments left over. -/
def collect : List (String × Argument) →
    Except ArgumentFault (List (String × String) × List String)
  | [] => .ok ([], [])
  | (_, .name name (some value)) :: rest | (_, .name name none) :: (value, .plain) :: rest =>
    (collect rest).map fun (given, left) => ((name.setting, value) :: given, left)
  | (_, .name name none) :: _ => .error (.missing name.name)
  | (_, .help) :: _ => .error .help
  | (_, .helpWith value) :: _ => .error (.helpWith value)
  | (argument, _) :: rest =>
    (collect rest).map fun (given, left) => (given, argument :: left)

end Arguments

end FieldRules
