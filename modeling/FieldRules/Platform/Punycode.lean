import FieldRules.Text.CharClass

/-!
# Punycode

A text may be written with letters, digits and hyphens of ASCII alone: first its characters of ASCII,
then a hyphen if there are any, then where and in which order the other characters are put between
them. These are put in from the least code point to the greatest, and those of one code point from the
first place to the last. Each is given by the number of steps from the one before, where a step leads
to the next place, or from the last place to the first one for the next code point.

A number is written with digits in base 36 from the least, where a digit below a threshold is the last
one. The thresholds depend on a bias that follows the numbers, so that numbers of usual size are short.

## Main definitions

* `Punycode.encode` — the text in ASCII
* `Punycode.decode?` — the text that a text in ASCII stands for
-/

namespace FieldRules.Text.Punycode

/-! ## Numbers -/

/-- The base that numbers are written in. -/
def base : Nat := 36

/-- The bias before the first number. -/
def firstBias : Nat := 72

/-- By how much the first number is lessened in the bias after it. -/
def firstDamp : Nat := 700

/-- By how much any other number is lessened. -/
def laterDamp : Nat := 2

/-- The least code point that is not in ASCII. -/
def firstCode : Nat := 0x80

/-- A digit: a letter from a to z, or after those a decimal digit. -/
def digit (n : Nat) : Char :=
  if n < 26 then Char.ofNat ('a'.toNat + n) else Char.ofNat ('0'.toNat + (n - 26))

/-- The number that a digit stands for. -/
def digit? (c : Char) : Option Nat :=
  if 'a' ≤ c && c ≤ 'z' then some (c.toNat - 'a'.toNat)
  else if 'A' ≤ c && c ≤ 'Z' then some (c.toNat - 'A'.toNat)
  else if '0' ≤ c && c ≤ '9' then some (c.toNat - '0'.toNat + 26)
  else none

/-- The threshold of the digit at a place, where the places are counted from zero. -/
def threshold (bias place : Nat) : Nat :=
  min 26 (max 1 (base * (place + 1) - bias))

theorem threshold_pos (bias place : Nat) : 0 < threshold bias place := by
  unfold threshold
  omega

/-- The bias that fits a number, before it is bent. -/
def biasFor (n : Nat) : Nat :=
  if 455 < n then base + biasFor (n / 35) else base * n / (n + 38)
termination_by n
decreasing_by exact Nat.div_lt_self (by omega) (by omega)

/-- The bias after a number, where so many characters are in the text by then. -/
def nextBias (damp count n : Nat) : Nat :=
  biasFor (n / damp + n / damp / count)

/-- A number in digits, from the digit at a place on. -/
def digits (bias place n : Nat) : List Char :=
  let t := threshold bias place
  if n < t then [digit n]
  else digit (t + (n - t) % (base - t)) :: digits bias (place + 1) ((n - t) / (base - t))
termination_by n
decreasing_by
  have := threshold_pos bias place
  have := Nat.div_le_self (n - threshold bias place) (base - threshold bias place)
  omega

/-! ## Writing -/

/-- The characters outside ASCII with the places that they are put in, in order. A place is the number
of characters before it that are in the text by then. -/
def insertions (cs : List Char) : List (Char × Nat) :=
  let others := cs.zipIdx.filter fun (c, _) => firstCode ≤ c.toNat
  (others.mergeSort fun a b => a.1 ≤ b.1).map fun (c, i) => (c, (cs.take i).countP (· ≤ c))

/-- The numbers of steps to the places, from a place of a code point on and with so many characters in
the text. -/
def steps (code place count : Nat) : List (Char × Nat) → List Nat
  | [] => []
  | (c, next) :: rest =>
    ((c.toNat - code) * (count + 1) + next - place) :: steps c.toNat (next + 1) (count + 1) rest

/-- Numbers in digits. -/
def written (bias damp count : Nat) : List Nat → List Char
  | [] => []
  | n :: rest =>
    digits bias 0 n ++ written (nextBias damp (count + 1) n) laterDamp (count + 1) rest

/-- The text in ASCII. -/
def encode (cs : List Char) : List Char :=
  let plain := cs.filter fun c => c.toNat < firstCode
  let numbers := steps firstCode 0 plain.length (insertions cs)
  plain ++ (if plain.isEmpty then [] else ['-']) ++
    written firstBias firstDamp plain.length numbers

/-! ## Reading -/

/-- How far a text is read: what it stands for so far, the next place of a code point, and the digits
of a number that has not ended. -/
structure Reading where
  text : List Char
  code : Nat
  place : Nat
  bias : Nat
  damp : Nat
  /-- The number that the digits give. -/
  number : Nat
  /-- What the next digit counts for. -/
  weight : Nat
  /-- How many digits there are. -/
  digitCount : Nat

namespace Reading

/-- Before the first digit. -/
def start (plain : List Char) : Reading :=
  ⟨plain, firstCode, 0, firstBias, firstDamp, 0, 1, 0⟩

/-- After the last digit of a number: a character is put into the text. It must be one. -/
def insert (r : Reading) (number : Nat) : Option Reading :=
  let count := r.text.length + 1
  let code := r.code + (r.place + number) / count
  let place := (r.place + number) % count
  if code.isValidChar then
    some ⟨r.text.insertIdx place (Char.ofNat code), code, place + 1,
      nextBias r.damp count number, laterDamp, 0, 1, 0⟩
  else none

/-- After one more digit. -/
def next (r : Reading) (c : Char) : Option Reading :=
  (digit? c).bind fun n =>
    let t := threshold r.bias r.digitCount
    let number := r.number + n * r.weight
    if n < t then r.insert number
    else some { r with
      number := number, weight := r.weight * (base - t), digitCount := r.digitCount + 1 }

end Reading

/-- The text before the last hyphen, and the text after it. Without a hyphen the first is empty. -/
def splitAtLastHyphen (cs : List Char) : List Char × List Char :=
  let after := (cs.reverse.takeWhile (· != '-')).reverse
  ((cs.take (cs.length - after.length)).dropLast, after)

/-- The text that a text in ASCII stands for. The last number must have ended. -/
def decode? (cs : List Char) : Option (List Char) :=
  let (plain, numbers) := splitAtLastHyphen cs
  ((numbers.foldlM Reading.next (Reading.start plain)).filter (·.digitCount = 0)).map (·.text)

end FieldRules.Text.Punycode
