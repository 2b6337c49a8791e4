import FieldRules.Failure
import FieldRules.Value.Equality

/-!
# Mappings and sets

A mapping is the list of its entries in the order in which the keys first came; no key occurs twice.
Giving a key again changes its value and nothing else. A set keeps the first of equal members.

## Main definitions

* `Mapping` — the entries of a mapping
* `Mapping.get?`, `Mapping.put`, `Mapping.ofEntries` — look-up and construction
* `Members.ofList` — the members of a set
-/

namespace FieldRules

/-- The entries of a mapping, in order. -/
abbrev Mapping := List (Value × Value)

namespace Mapping

variable {α : Type}

/-- What is listed under a key. -/
def get? (m : List (Value × α)) (key : Value) : Option α :=
  (m.find? fun entry => key.same entry.1).map Prod.snd

/-- The value of a key, or the null value if the key is missing. -/
def getOrNull (m : Mapping) (key : Value) : Value :=
  (get? m key).getD .null

/-- Whether the key is there. -/
def hasKey (m : List (Value × α)) (key : Value) : Bool :=
  m.any fun entry => key.same entry.1

/-- Whether two mappings have the same keys, in any order. -/
def haveSameKeys (m n : List (Value × α)) : Bool :=
  m.length = n.length && m.all fun entry => hasKey n entry.1

/-- The keys in order. -/
def keys (m : List (Value × α)) : List Value :=
  m.map Prod.fst

/-- Lists something under a key. A key that is there already keeps its place and its form. -/
def put : List (Value × α) → Value → α → List (Value × α)
  | [], key, value => [(key, value)]
  | (k, v) :: rest, key, value =>
    if key.same k then (k, value) :: rest else (k, v) :: put rest key value

/-- The mapping that gives each key the last value it is listed with. -/
def ofEntries (entries : List (Value × α)) : List (Value × α) :=
  entries.foldl (fun m entry => put m entry.1 entry.2) []

/-- A value as a key; lists, sets and mappings are none. -/
def asKey (v : Value) : Except Failure Value :=
  if v.canBeKey then .ok v else .error .wrongKind

theorem hasKey_eq_isSome_get? (m : List (Value × α)) (key : Value) :
    hasKey m key = (get? m key).isSome := by
  induction m with
  | nil => rfl
  | cons entry rest ih =>
    have ih' : (rest.any fun e => key.same e.1) = (rest.find? fun e => key.same e.1).isSome := by
      simpa [hasKey, get?] using ih
    cases h : key.same entry.1 <;> simp [hasKey, get?, h, ih']

end Mapping

namespace Members

/-- The members of a set, each kept where it first came. -/
def ofList (vs : List Value) : List Value :=
  vs.foldl (fun members v => if v.isMember members then members else members ++ [v]) []

end Members

end FieldRules
