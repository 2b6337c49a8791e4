import FieldRules.Number.Double
import FieldRules.Schema

/-!
# Truth values in settings

A truth value may be given by a text or by a number. The texts are a few words in capital or small
letters; the numbers are zero and one.

## Main definitions

* `Value.asTruth` — the truth value that a value stands for
-/

namespace FieldRules

/-- The texts that stand for truth values. -/
def truthTexts : List (String × Bool) :=
  [("0", false), ("f", false), ("n", false), ("no", false), ("off", false), ("false", false),
    ("1", true), ("t", true), ("y", true), ("on", true), ("yes", true), ("true", true)]

/-- The truth value that a text stands for, or what is wrong with it. -/
def truthOfText (path : List PathStep) (s : String) : Except Fault Bool :=
  match truthTexts.lookup s.toLower with
  | some b => .ok b
  | none => .error ⟨.unreadableTruth, path⟩

/-- The truth value that a number stands for, or what is wrong with it. Numbers of more than 64 bits
are not looked at. -/
def truthOfWhole (path : List PathStep) (n : Int) : Except Fault Bool :=
  if n = 0 then .ok false
  else if n = 1 then .ok true
  else if -0x8000000000000000 ≤ n && n < 0x8000000000000000 then .error ⟨.unreadableTruth, path⟩
  else .error ⟨.needsTruth, path⟩

/-- The truth value that a value stands for, or what is wrong with it. -/
def Value.asTruth (path : List PathStep) (v : Value) : Except Fault Bool :=
  match v with
  | .bool b => .ok b
  | .int n => truthOfWhole path n
  | .float (.finite q) =>
    if q.den = 1 && -0x8000000000000000 < q.num then truthOfWhole path q.num else .error ⟨.needsTruth, path⟩
  | .float .negativeZero => .ok false
  | .text s => truthOfText path s
  | .bytes _ =>
    match v.asText path with
    | .ok s => truthOfText path s
    | .error _ => .error ⟨.unreadableTruth, path⟩
  | _ => .error ⟨.needsTruth, path⟩

end FieldRules
