import FieldRules.Run
import FieldRules.Check.Judgement

/-!
# Libraries of checks

A library knows checks by the names of their kinds: the built-in ones, and those a caller adds. An
added check replaces a built-in one of the same name. It is listed under the key it was added with,
whatever name of its own it has. What a caller adds need not be a function, which shows when the
check is used; the null value is listed but is no check.

## Main definitions

* `Check`, `Check.run` — a check and its use
* `Library`, `Library.standard`, `Library.extend` — libraries
* `Library.contains`, `Library.check?`, `Library.listing?`, `Library.names` — what a library knows
-/

namespace FieldRules

/-- A check: a built-in one, or what a caller supplied. -/
inductive Check where
  | builtin (kind : Kind)
  | supplied (check : Value)

/-- Uses a check on a value, the options of the rule and all fields. -/
def Check.run (s : Surroundings) (check : Check) (value options fields : Value) : Run Value :=
  match check with
  | .builtin kind => .ofResult ((kind.judge s value options fields).map Verdict.toValue)
  | .supplied (.function f) => .call s f [value, options, fields]
  | .supplied _ => .fail .wrongKind

/-- What a library lists under a key: a check with a name of its own. -/
structure Listing where
  name : Value
  check : Check

/-- A library: its listings under their keys. -/
structure Library where
  listings : List (Value × Listing)

namespace Library

/-- The library of the built-in checks. -/
def standard : Library :=
  ⟨Kind.all.map fun kind => (.text kind.name, ⟨.text kind.name, .builtin kind⟩)⟩

/-- What is listed for an item that is added under a key. -/
def listingOf (key : Value) : Value → Listing
  | .named name check => ⟨name, .supplied check⟩
  | item => ⟨key, .supplied item⟩

/-- Adds items under their keys. -/
def add (lib : Library) (items : Mapping) : Library :=
  ⟨items.foldl (fun m item => Mapping.put m item.1 (listingOf item.1 item.2)) lib.listings⟩

/-- The built-in checks with those that a caller adds by a mapping; a value that counts as false adds
none. -/
def extend (extra : Value) : Except Failure Library :=
  if extra.isFalsy then .ok standard
  else
    match extra with
    | .mapping items => .ok (standard.add items)
    | _ => .error .noSuchOperation

/-- What is listed under a key. -/
def listing? (lib : Library) (key : Value) : Option Listing :=
  Mapping.get? lib.listings key

/-- Whether anything is listed under a key. -/
def contains (lib : Library) (key : Value) : Bool :=
  Mapping.hasKey lib.listings key

theorem contains_eq_isSome_listing? (lib : Library) (key : Value) :
    lib.contains key = (lib.listing? key).isSome :=
  Mapping.hasKey_eq_isSome_get? lib.listings key

/-- The check under a key; the null value is none. -/
def check? (lib : Library) (key : Value) : Option Check :=
  match (lib.listing? key).map Listing.check with
  | some (.supplied .null) => none
  | check => check

/-- The texts among the keys, if all keys are texts. -/
def textKeys? (lib : Library) : Option (List String) :=
  (Mapping.keys lib.listings).mapM fun
    | .text s => some s
    | _ => none

/-- The keys in order; keys of other kinds than texts have no order with them. -/
def names (lib : Library) : Except Failure (List String) :=
  match lib.textKeys? with
  | some keys => .ok (keys.mergeSort fun a b => decide (a ≤ b))
  | none => .error .wrongKind

/-- Uses the check under a key. -/
def use (s : Surroundings) (lib : Library) (key value options fields : Value) : Run Value := do
  let key ← Run.ofResult (Mapping.asKey key)
  match lib.check? key with
  | some check => check.run s value options fields
  | none => .fail .wrongKind

end Library

end FieldRules
