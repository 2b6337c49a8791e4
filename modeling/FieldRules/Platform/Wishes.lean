import FieldRules.Schema

/-!
# Wishes

A program that makes settings may pass, by certain names that are no settings, how they are to be read.
The null value asks for nothing. Where a wish should be true or false, any value counts as one.

## Main definitions

* `Wishes.get?`, `Wishes.text?` — what is asked for by a name
* `Wishes.holds` — whether something is asked for
-/

namespace FieldRules.Wishes

/-- What is asked for by a name; the null value asks for nothing. -/
def get? (passed : Mapping) (name : String) : Option Value :=
  match Mapping.get? passed (.text name) with
  | some .null | none => none
  | some v => some v

/-- The text that is asked for, if it is a text. -/
def text? (passed : Mapping) (name : String) : Option String :=
  match get? passed name with
  | some (.text s) => some s
  | _ => none

/-- Whether something is asked for. -/
def holds (passed : Mapping) (name : String) (otherwise : Bool) : Bool :=
  ((get? passed name).map Value.isTruthy).getD otherwise

end FieldRules.Wishes
