import FieldRules.Value

/-!
# What is left of the stack

Values lie in one another, and what goes through them calls itself once a level, or more than once. The
stack that is left for it is finite, and nothing keeps a caller from handing over values that lie deeper.
Then there is no answer.

When this happens depends on more than the values: on how many calls were made before, on parts that are
one and the same object and are not gone through for that, on the order in which the members of a set are
met, and on which kinds of values were met earlier. A `Stack` therefore says itself where it ends. What can
be relied on are bounds: a number of levels for which it always suffices, and one past which it never does.

## Main definitions

* `Value.depth` — how many levels of containers lie in one another
* `Stack` — what is left of the stack
* `Stack.ofCalls` — a stack that is told by a number of calls alone
-/

namespace FieldRules

namespace Value

mutual

/-- How many levels of containers lie in one another, the members of sets and the keys of mappings
counted in. -/
def depth : Value → Nat
  | .list xs | .tuple xs | .set xs | .fixedSet xs => depthAll xs
  | .mapping entries => depthEntries entries
  | .named name check => max name.depth check.depth + 1
  | _ => 0

/-- The levels of a container with the given members. -/
def depthAll : List Value → Nat
  | [] => 0
  | x :: xs => max (x.depth + 1) (depthAll xs)

/-- The levels of a mapping with the given entries. -/
def depthEntries : List (Value × Value) → Nat
  | [] => 0
  | (k, v) :: rest => max (max k.depth v.depth + 1) (depthEntries rest)

end

end Value

/-- What is left of the stack when a check is called, and when documents are written and read. -/
structure Stack where
  /-- Whether the stack ends before it is known whether two values of one kind are equal. -/
  endsInEquality : Value → Value → Bool
  /-- Whether the stack ends when the deep comparison comes to two values, so many levels down: with the
  call itself, or before it is known whether values that are not gone into, or the keys of mappings, are
  equal. -/
  endsInDeep : Nat → Value → Value → Bool
  /-- Equality of values goes down so many levels at least. -/
  equalityLevels : Nat
  /-- The deep comparison goes down so many levels at least, equality of what it does not go into
  counted in. -/
  deepLevels : Nat
  /-- The deep comparison goes down so many levels at most. -/
  lastLevel : Nat
  /-- So many lists and objects of a document that is read may lie in one another. -/
  readLevels : Nat
  /-- So many lists and mappings of a value that is written may lie in one another. -/
  writtenLevels : Nat
  /-- So many lists and objects of a value that an answer repeats may lie in one another. -/
  repeatedLevels : Nat
  equalityLevels_lt : ∀ {a b : Value}, endsInEquality a b = true →
    equalityLevels < min a.depth b.depth
  deepLevels_lt : ∀ {level : Nat} {a b : Value}, endsInDeep level a b = true →
    deepLevels < level + min a.depth b.depth
  ends_of_lastLevel_lt : ∀ {level : Nat} (a b : Value), lastLevel < level →
    endsInDeep level a b = true

namespace Value

/-- The levels that equality goes down in one step of the deep comparison of two values: those of the keys
of mappings, and those of values that are not gone into. -/
def depthInStep (a b : Value) : Nat :=
  match a, b with
  | .list _, .list _ | .list _, .tuple _ | .tuple _, .list _ | .tuple _, .tuple _ => 0
  | .mapping xs, .mapping ys => min (depthAll (xs.map Prod.fst)) (depthAll (ys.map Prod.fst))
  | a, b => if a.kindName = b.kindName then min a.depth b.depth else 0

theorem depthAll_keys_le (entries : List (Value × Value)) :
    depthAll (entries.map Prod.fst) ≤ depthEntries entries := by
  induction entries with
  | nil => exact Nat.le_refl 0
  | cons entry rest ih =>
    obtain ⟨k, v⟩ := entry
    simp only [List.map_cons, depthAll, depthEntries]
    omega

theorem depthInStep_le (a b : Value) : a.depthInStep b ≤ min a.depth b.depth := by
  unfold depthInStep
  split
  any_goals exact Nat.zero_le _
  · rename_i xs ys
    have hxs := depthAll_keys_le xs
    have hys := depthAll_keys_le ys
    simp only [depth]
    omega
  · split <;> omega

end Value

/-- A stack of a number of calls, of which equality takes one a level and the deep comparison three. No two
parts are one object, and values are gone through also where they differ early. -/
def Stack.ofCalls (calls : Nat) : Stack where
  endsInEquality a b := decide (calls < min a.depth b.depth)
  endsInDeep level a b := decide (calls < 3 * level + a.depthInStep b)
  equalityLevels := calls
  deepLevels := calls / 3
  lastLevel := calls / 3
  readLevels := calls
  writtenLevels := calls
  repeatedLevels := calls
  equalityLevels_lt h := by simpa using h
  deepLevels_lt {level a b} h := by
    have hends : calls < 3 * level + a.depthInStep b := by simpa using h
    have hstep := a.depthInStep_le b
    omega
  ends_of_lastLevel_lt a b h := by
    simp only [decide_eq_true_eq]
    omega

end FieldRules
