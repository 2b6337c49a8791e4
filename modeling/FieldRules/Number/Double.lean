/-!
# Floating-point numbers by their meaning

A double is known by the number it stands for: an exact rational, an infinity, or no number at all.
Two values need more than that. A negative zero equals zero and is written differently. A result
that is no number differs from everything in a comparison, itself included, yet a container finds
it again by its identity; so it carries one.

Whole numbers of any size and doubles are compared as exact numbers: `Extended` is the rational
line with both infinities, and nothing is rounded on the way to it.

## Main definitions

* `Double` — the floating-point numbers
* `Extended` — the exact numbers with both infinities, and their order `Extended.le`
* `Number` — whole numbers and doubles together
* `Number.rank?` — the exact number, if there is one
* `Number.equal`, `Number.le` — the comparisons, false as soon as one side is no number
-/

namespace FieldRules

/-- A floating-point number, known by its meaning. -/
inductive Double where
  /-- A result that is no number, told apart from others by its identity. -/
  | nan (identity : Nat)
  | infinity (negative : Bool)
  | negativeZero
  /-- A number that is neither infinite nor a negative zero. -/
  | finite (value : Rat)

/-- The exact numbers with an infinity at either end. -/
inductive Extended where
  | bottom
  | real (value : Rat)
  | top
  deriving DecidableEq

/-- The order of the exact numbers, the infinities at its ends. -/
def Extended.le : Extended → Extended → Bool
  | .bottom, _ => true
  | _, .top => true
  | .real p, .real q => decide (p ≤ q)
  | _, _ => false

/-- A number: a whole number of any size, or a double. -/
inductive Number where
  | whole (n : Int)
  | double (x : Double)

/-- The exact number a double stands for. -/
def Double.rank? : Double → Option Extended
  | .nan _ => none
  | .infinity true => some .bottom
  | .infinity false => some .top
  | .negativeZero => some (.real 0)
  | .finite q => some (.real q)

namespace Number

/-- The exact number, if it is one. -/
def rank? : Number → Option Extended
  | .whole n => some (.real n)
  | .double x => x.rank?

/-- Whether both are numbers, and the same one. -/
def equal (a b : Number) : Bool :=
  match a.rank?, b.rank? with
  | some p, some q => p = q
  | _, _ => false

/-- Whether both are numbers and the first is at most the second. -/
def le (a b : Number) : Bool :=
  match a.rank?, b.rank? with
  | some p, some q => p.le q
  | _, _ => false

/-- Whether this is no number. -/
def isNan (a : Number) : Bool :=
  a.rank?.isNone

/-- Whether this is a zero of either sign. -/
def isZero (a : Number) : Bool :=
  a.rank? = some (.real 0)

@[simp] theorem rank?_whole (n : Int) : (Number.whole n).rank? = some (.real n) := rfl

end Number

end FieldRules
