import FieldRules.Number.Numeral
import FieldRules.Number.Shortest
import FieldRules.Text.Encoded
import FieldRules.Value.Mapping

/-!
# Documents

A request is a document in JavaScript object notation. Numbers without point and exponent are whole
numbers of any size, all others are doubles, and the names of infinity and of no number are allowed.
Of equal names in an object the last one counts, at the place of the first.

Answers are stricter than requests: what holds an infinity or no number cannot be repeated in one.

How deep lists and objects may lie in one another is a matter of the stack, for what is read, what is
written and what is repeated each in its own way. It is given as a number of levels.

## Main definitions

* `Document.read` — the value that a text writes
* `Document.ofValue` — the value that is read when a value has been written
* `Document.levels` — how deep the lists and objects of a document lie
* `Document.isRepeatable` — whether a value can be repeated in an answer
-/

namespace FieldRules.Document

open Text

/-- What became of a text that should be a document. -/
inductive Outcome where
  | value (v : Value)
  | malformed
  /-- A whole number has more digits than are read, or values lie too deep in one another. -/
  | oversized
  /-- The bytes write no text. -/
  | undecodable
  /-- Half of a character stands alone in a text. It may be written so, but no text here can hold a half,
  and documents of this kind are left out. -/
  | halved

/-- A blank between the parts of a document. -/
def isGap (c : Char) : Bool :=
  c = ' ' || c = '\t' || c = '\n' || c = '\r'

/-- The text without the blanks at its start. -/
def skip (cs : List Char) : List Char :=
  cs.dropWhile isGap

/-- The value of a hexadecimal digit. -/
def hexValue? (c : Char) : Option Nat :=
  if isAsciiDigit c then some (c.toNat - '0'.toNat)
  else if 'a' ≤ c && c ≤ 'f' then some (c.toNat - 'a'.toNat + 10)
  else if 'A' ≤ c && c ≤ 'F' then some (c.toNat - 'A'.toNat + 10)
  else none

/-- The number that four hexadecimal digits write. -/
def hexNumber? (a b c d : Char) : Option Nat :=
  match hexValue? a, hexValue? b, hexValue? c, hexValue? d with
  | some a, some b, some c, some d => some (((a * 16 + b) * 16 + c) * 16 + d)
  | _, _, _, _ => none

/-- The character that one letter after a backslash stands for. -/
def escape? : Char → Option Char
  | '\x22' => some '\x22'
  | '\\' => some '\\'
  | '/' => some '/'
  | 'b' => some '\x08'
  | 'f' => some '\x0c'
  | 'n' => some '\n'
  | 'r' => some '\r'
  | 't' => some '\t'
  | _ => none

/-- Reads a text up to its closing quote. -/
def takeText (soFar : List Char) : List Char → Option (List Char × List Char)
  | [] => none
  | '\x22' :: rest => some (soFar.reverse, rest)
  | '\\' :: 'u' :: a :: b :: c :: d :: '\\' :: 'u' :: e :: f :: g :: h :: rest =>
    match hexNumber? a b c d, hexNumber? e f g h with
    | some high, some low =>
      if isHighHalf high && isLowHalf low then
        takeText (charOfHalves high low :: soFar) rest
      else takeText (charOf high :: soFar) ('\\' :: 'u' :: e :: f :: g :: h :: rest)
    | some n, none => takeText (charOf n :: soFar) ('\\' :: 'u' :: e :: f :: g :: h :: rest)
    | none, _ => none
  | '\\' :: 'u' :: a :: b :: c :: d :: rest =>
    match hexNumber? a b c d with
    | some n => takeText (charOf n :: soFar) rest
    | none => none
  | '\\' :: c :: rest =>
    match escape? c with
    | some e => takeText (e :: soFar) rest
    | none => none
  | c :: rest => if c.toNat < 0x20 then none else takeText (c :: soFar) rest

/-- Whether one of the texts of a document writes half of a character alone. A backslash is found in
texts only. -/
def writesHalf : List Char → Bool
  | [] => false
  | '\\' :: 'u' :: a :: b :: c :: d :: '\\' :: 'u' :: e :: f :: g :: h :: rest =>
    match hexNumber? a b c d, hexNumber? e f g h with
    | some high, some low =>
      if isHighHalf high && isLowHalf low then writesHalf rest
      else isHalf high || writesHalf ('\\' :: 'u' :: e :: f :: g :: h :: rest)
    | _, _ => false
  | '\\' :: 'u' :: a :: b :: c :: d :: rest => (hexNumber? a b c d).any isHalf || writesHalf rest
  | '\\' :: _ :: rest => writesHalf rest
  | _ :: rest => writesHalf rest

/-- The fraction at the start of a text, without its point, and the rest. -/
def takeFractionDigits (cs : List Char) : List Char × List Char :=
  match cs with
  | '.' :: rest =>
    let ds := rest.takeWhile isAsciiDigit
    if ds.isEmpty then ([], cs) else (ds, rest.dropWhile isAsciiDigit)
  | _ => ([], cs)

/-- The exponent at the start of a text, if there is one, and the rest. -/
def takeExponent (cs : List Char) : Option Int × List Char :=
  match cs with
  | mark :: rest =>
    let (negative, rest) := takeSign rest
    let ds := rest.takeWhile isAsciiDigit
    if (mark = 'e' || mark = 'E') && !ds.isEmpty then
      ((natOfDigits? ds).map fun n => if negative then -(n : Int) else n,
        rest.dropWhile isAsciiDigit)
    else (none, cs)
  | [] => (none, cs)

/-- The whole part at the start of a number: a zero alone, or digits that start with none. -/
def takeWholePart (cs : List Char) : Option (List Char × List Char) :=
  match cs with
  | '0' :: rest => some (['0'], rest)
  | _ =>
    let ds := cs.takeWhile isAsciiDigit
    if ds.isEmpty then none else some (ds, cs.dropWhile isAsciiDigit)

/-- A number at the start of a text, and the rest. -/
def takeNumber (cs : List Char) : Option (Outcome × List Char) :=
  let (negative, cs) :=
    match cs with
    | '-' :: rest => (true, rest)
    | _ => (false, cs)
  match takeWholePart cs with
  | none => none
  | some (whole, rest) =>
    let (fraction, rest) := takeFractionDigits rest
    let (exponent, rest) := takeExponent rest
    let digits := (natOfDigits? (whole ++ fraction)).getD 0
    if fraction.isEmpty && exponent.isNone then
      if mostDigits < whole.length then some (.oversized, rest)
      else some (.value (.int (if negative then -(digits : Int) else digits)), rest)
    else
      let d : Decimal := ⟨negative, digits, exponent.getD 0 - fraction.length⟩
      some (.value (.float d.toDouble), rest)

/-- The rest of a text that starts with a word. -/
def dropWord? (word : String) (cs : List Char) : Option (List Char) :=
  if word.toList.isPrefixOf cs then some (cs.drop word.length) else none

/-- The words that stand for values. All results that are no number are one and the same. -/
def words : List (String × Value) :=
  [("null", .null), ("true", .bool true), ("false", .bool false), ("NaN", .float (.nan 0)),
    ("Infinity", .float (.infinity false)), ("-Infinity", .float (.infinity true))]

/-- A word that stands for a value, at the start of a text, and the rest. -/
def takeWord (cs : List Char) : Option (Value × List Char) :=
  words.findSome? fun entry => (dropWord? entry.1 cs).map fun rest => (entry.2, rest)

mutual

/-- A value at the start of a text, and the rest. At most `depth` lists and objects may lie in one
another. -/
def takeValue : Nat → Nat → List Char → Option (Outcome × List Char)
  | 0, _, _ => none
  | fuel + 1, depth, cs =>
    match cs with
    | '\x22' :: rest => (takeText [] rest).map fun (s, rest) => (.value (.text (String.ofList s)), rest)
    | '[' :: rest =>
      match depth with
      | 0 => some (.oversized, rest)
      | depth + 1 =>
        match skip rest with
        | ']' :: rest => some (.value (.list []), rest)
        | rest => takeItems fuel depth [] rest
    | '\x7b' :: rest =>
      match depth with
      | 0 => some (.oversized, rest)
      | depth + 1 =>
        match skip rest with
        | '\x7d' :: rest => some (.value (.mapping []), rest)
        | rest => takeMembers fuel depth [] rest
    | _ =>
      match takeWord cs with
      | some (v, rest) => some (.value v, rest)
      | none => takeNumber cs

/-- The items of a list up to its end. -/
def takeItems : Nat → Nat → List Value → List Char → Option (Outcome × List Char)
  | 0, _, _, _ => none
  | fuel + 1, depth, items, cs =>
    match takeValue fuel depth cs with
    | some (.value v, rest) =>
      match skip rest with
      | ',' :: rest => takeItems fuel depth (v :: items) (skip rest)
      | ']' :: rest => some (.value (.list (v :: items).reverse), rest)
      | _ => none
    | other => other

/-- The members of an object up to its end. -/
def takeMembers : Nat → Nat → Mapping → List Char → Option (Outcome × List Char)
  | 0, _, _, _ => none
  | fuel + 1, depth, members, cs =>
    match cs with
    | '\x22' :: rest =>
      match takeText [] rest with
      | none => none
      | some (name, rest) =>
        match skip rest with
        | ':' :: rest =>
          match takeValue fuel depth (skip rest) with
          | some (.value v, rest) =>
            let members := Mapping.put members (.text (String.ofList name)) v
            match skip rest with
            | ',' :: rest => takeMembers fuel depth members (skip rest)
            | '\x7d' :: rest => some (.value (.mapping members), rest)
            | _ => none
          | other => other
        | _ => none
    | _ => none

end

/-- The value that a text writes. At most so many lists and objects may lie in one another. A mark of the
order of bytes at its start is passed over. -/
def read (levels : Nat) (cs : List Char) : Outcome :=
  let cs := if cs.head? = some '\ufeff' then cs.drop 1 else cs
  match takeValue (2 * cs.length + 2) levels (skip cs) with
  | some (.value v, rest) =>
    if !(skip rest).isEmpty then .malformed else if writesHalf cs then .halved else .value v
  | some (outcome, _) => outcome
  | none => .malformed

/-! ## Values as documents -/

/-- How a double is written. -/
def doubleText : Double → String
  | .nan _ => "NaN"
  | .infinity negative => if negative then "-Infinity" else "Infinity"
  | x => x.toText

/-- A whole number, if it has not too many digits to be written. -/
def writtenWhole (n : Int) : Except Failure Int :=
  if mostDigits < (Nat.toDigits 10 n.natAbs).length then .error .tooManyDigits else .ok n

/-- The name that a key has in a document, if it can have one. -/
def keyName : Value → Except Failure String
  | .null => .ok "null"
  | .bool b => .ok (if b then "true" else "false")
  | .int n => (writtenWhole n).map toString
  | .float x => .ok (doubleText x)
  | .text s => .ok s
  | _ => .error .wrongKind

mutual

/-- The value that is read when a value has been written as a document: tuples become lists, keys become
names, and results that are no number become one. At most so many lists and mappings may lie in one
another. What cannot be written is met in the order of writing. -/
def ofValue (levels : Nat) : Value → Except Failure Value
  | .null => .ok .null
  | .bool b => .ok (.bool b)
  | .int n => (writtenWhole n).map .int
  | .float (.nan _) => .ok (.float (.nan 0))
  | .float x => .ok (.float x)
  | .text s => .ok (.text s)
  | .list xs | .tuple xs =>
    if levels = 0 then .error .tooDeep else (ofValues (levels - 1) xs).map .list
  | .mapping entries =>
    if levels = 0 then .error .tooDeep
    else (ofEntries (levels - 1) entries).map fun members => .mapping (Mapping.ofEntries members)
  | .bytes _ | .date _ | .moment _ | .function _ | .set _ | .fixedSet _ | .named _ _ =>
    .error .wrongKind

/-- The values of a list as they are read again. -/
def ofValues (levels : Nat) : List Value → Except Failure (List Value)
  | [] => .ok []
  | x :: xs => do
    let y ← ofValue levels x
    let ys ← ofValues levels xs
    return y :: ys

/-- The entries of a mapping as they are read again. -/
def ofEntries (levels : Nat) : List (Value × Value) → Except Failure (List (Value × Value))
  | [] => .ok []
  | (k, v) :: rest => do
    let name ← keyName k
    let w ← ofValue levels v
    let others ← ofEntries levels rest
    return (.text name, w) :: others

end

mutual

/-- How many lists and objects of a document lie in one another. -/
def levels : Value → Nat
  | .list xs => levelsOfAll xs + 1
  | .mapping entries => levelsOfEntries entries + 1
  | _ => 0

/-- The levels of the deepest of several values. -/
def levelsOfAll : List Value → Nat
  | [] => 0
  | x :: xs => max (levels x) (levelsOfAll xs)

/-- The levels of the deepest value of an object. -/
def levelsOfEntries : List (Value × Value) → Nat
  | [] => 0
  | (_, v) :: rest => max (levels v) (levelsOfEntries rest)

end

/-! ## Values in answers -/

/-- Whether a member of an object is left out where a value is repeated. -/
def isLeftOut : Value → Bool
  | .text name => "_sa".toList.isPrefixOf name.toList
  | _ => false

mutual

/-- Whether a value can be repeated in an answer: it holds no infinity and no result that is no
number, and at most `depth` lists and objects lie in one another. -/
def isRepeatable (depth : Nat) : Value → Bool
  | .float (.nan _) => false
  | .float (.infinity _) => false
  | .list xs => depth != 0 && areRepeatable (depth - 1) xs
  | .mapping entries => depth != 0 && haveRepeatable (depth - 1) entries
  | _ => true

/-- Whether all values of a list can be repeated. -/
def areRepeatable (depth : Nat) : List Value → Bool
  | [] => true
  | x :: xs => isRepeatable depth x && areRepeatable depth xs

/-- Whether all members of an object can be repeated. -/
def haveRepeatable (depth : Nat) : List (Value × Value) → Bool
  | [] => true
  | (k, v) :: rest => (isLeftOut k || isRepeatable depth v) && haveRepeatable depth rest

end

end FieldRules.Document
