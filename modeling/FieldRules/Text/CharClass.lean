/-!
# Classes of characters

A class of characters is given by ranges of code points. Two classes are told apart by their ranges,
so a class can be compared as well as asked for its members.

## Main definitions

* `CharClass` — the classes, with `CharClass.range`, `CharClass.just` and `CharClass.anyOf`
* `CharClass.has` — whether a character is in a class
-/

namespace FieldRules.Text

/-- A class of characters: the first and the last code point of each of its ranges. -/
abbrev CharClass := List (Nat × Nat)

namespace CharClass

/-- Whether a character is in a class. -/
def has (cls : CharClass) (c : Char) : Bool :=
  cls.any fun bounds => bounds.1 ≤ c.toNat && c.toNat ≤ bounds.2

/-- The characters from one to another. -/
def range (first last : Char) : CharClass :=
  [(first.toNat, last.toNat)]

/-- One character alone. -/
def just (c : Char) : CharClass :=
  range c c

/-- The characters of a text. -/
def anyOf (s : String) : CharClass :=
  s.toList.flatMap just

@[simp] theorem has_append (a b : CharClass) (c : Char) :
    has (a ++ b) c = (has a c || has b c) :=
  List.any_append

@[simp] theorem has_range_iff (first last c : Char) :
    has (range first last) c = true ↔ first ≤ c ∧ c ≤ last := by
  simp only [has, range, List.any_cons, List.any_nil, Bool.or_false, Bool.and_eq_true,
    decide_eq_true_eq]
  exact Iff.rfl

@[simp] theorem has_just_iff (d c : Char) : has (just d) c = true ↔ c = d := by
  rw [just, has_range_iff]
  exact ⟨fun ⟨h, h'⟩ => Char.le_antisymm h' h, fun h => h ▸ ⟨Char.le_refl _, Char.le_refl _⟩⟩

end CharClass

end FieldRules.Text
