/-!
# Texts in bytes

A document that arrives in bytes does not say how its characters are written. It starts with two
characters of ASCII, though, so the zeros among its first four bytes show whether a character takes
one, two or four bytes, and in which order these come.

In units of two bytes, a character beyond the first 65536 is written by two halves. A half that
stands alone is no character, and no text here holds one. Another character stands in its place, and it is
told that this is so.

## Main definitions

* `Encoding`, `Encoding.detect` — how characters are written, told from the first bytes
* `joinHalves`, `holdHalf` — the characters that units of two bytes write, and whether a half stands alone
* `decode?` — the text in bytes
-/

namespace FieldRules.Text

/-- The order of the bytes of a unit. -/
inductive ByteOrder where
  | bigFirst
  | smallFirst
  deriving DecidableEq

/-- How the characters of a text are written in bytes. -/
inductive Encoding where
  /-- From one to four bytes a character, one for those of ASCII. -/
  | singles
  /-- Units of two bytes. -/
  | pairs (order : ByteOrder)
  /-- Units of four bytes. -/
  | quads (order : ByteOrder)
  deriving DecidableEq

/-- The encoding of a document, from the zeros among its first bytes. -/
def Encoding.detect : List UInt8 → Encoding
  | 0 :: 0 :: _ :: _ :: _ => .quads .bigFirst
  | 0 :: _ :: _ :: _ :: _ => .pairs .bigFirst
  | _ :: 0 :: 0 :: 0 :: _ => .quads .smallFirst
  | _ :: 0 :: _ :: _ :: _ => .pairs .smallFirst
  | [0, _] => .pairs .bigFirst
  | [_, 0] => .pairs .smallFirst
  | _ => .singles

/-- The number that two smaller ones make, each below `base`. -/
def ByteOrder.join (order : ByteOrder) (base a b : Nat) : Nat :=
  match order with
  | .bigFirst => a * base + b
  | .smallFirst => b * base + a

/-- The units of two bytes; none if a byte is left over. -/
def pairUnits? (order : ByteOrder) : List UInt8 → Option (List Nat)
  | [] => some []
  | a :: b :: rest => (pairUnits? order rest).map (order.join 256 a.toNat b.toNat :: ·)
  | [_] => none

/-- The units of four bytes, from units of two; none if one is left over. -/
def quadUnits? (order : ByteOrder) : List Nat → Option (List Nat)
  | [] => some []
  | a :: b :: rest => (quadUnits? order rest).map (order.join 65536 a b :: ·)
  | [_] => none

/-- The first half of a pair that writes one character beyond the first 65536. -/
def isHighHalf (n : Nat) : Bool :=
  0xD800 ≤ n && n < 0xDC00

/-- The second half of such a pair. -/
def isLowHalf (n : Nat) : Bool :=
  0xDC00 ≤ n && n < 0xE000

def isHalf (n : Nat) : Bool :=
  isHighHalf n || isLowHalf n

/-- The character of a number. A half that stands alone is no character and is replaced. -/
def charOf (n : Nat) : Char :=
  if isHalf n then '\ufffd' else Char.ofNat n

/-- The character that two halves write. -/
def charOfHalves (high low : Nat) : Char :=
  Char.ofNat (0x10000 + (high - 0xD800) * 0x400 + (low - 0xDC00))

/-- The characters that units of two bytes write. -/
def joinHalves : List Nat → List Char
  | [] => []
  | [n] => [charOf n]
  | high :: low :: rest =>
    if isHighHalf high && isLowHalf low then charOfHalves high low :: joinHalves rest
    else charOf high :: joinHalves (low :: rest)

/-- Whether a half stands alone among units of two bytes. -/
def holdHalf : List Nat → Bool
  | [] => false
  | [n] => isHalf n
  | high :: low :: rest =>
    if isHighHalf high && isLowHalf low then holdHalf rest
    else isHalf high || holdHalf (low :: rest)

/-- What bytes write. -/
structure Decoded where
  text : List Char
  /-- Somewhere another character stands for half of one. -/
  isHalved : Bool

/-- The text in bytes; none if its bytes are not well formed. -/
def decode? (bytes : List UInt8) : Option Decoded :=
  match Encoding.detect bytes with
  | .singles => (String.fromUTF8? ⟨bytes.toArray⟩).map fun s => ⟨s.toList, false⟩
  | .pairs order => (pairUnits? order bytes).map fun units => ⟨joinHalves units, holdHalf units⟩
  | .quads order =>
    ((pairUnits? order bytes).bind (quadUnits? order)).bind fun units =>
      if units.all (· < 0x110000) then some ⟨units.map charOf, units.any isHalf⟩ else none

end FieldRules.Text
