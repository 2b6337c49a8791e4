import FieldRules.Text.Case
import FieldRules.Text.Digit
import FieldRules.Platform.Label
import FieldRules.Text.Shape

/-!
# Hosts

A host is written as four numbers between points, as groups of hexadecimal digits between colons, all
in brackets, or as a name. What looks like one of the first two must be one. A name in ASCII may hold
any characters. Any other name is made of parts between points, of which only the last may be empty,
and has a form in ASCII of limited length.

The rules are those of the client that sends requests to the service, and of the standards that it
follows.

## Main definitions

* `Host.Kind` — the three ways to write a host
* `Host.kind` — the way in which a text is meant
* `Host.isValid` — whether a text is a host
-/

namespace FieldRules.Text.Host

/-- The ways to write a host. -/
inductive Kind where
  | fourNumbers
  | groups
  | name
  deriving DecidableEq

/-- Four runs of digits with points between them. -/
def fourRuns : Shape :=
  let run := Shape.oneOrMore (.one asciiDigits)
  let point := Shape.one (.just '.')
  .all [run, point, run, point, run, point, run]

/-- The way in which a text is meant to be a host. -/
def kind (cs : List Char) : Kind :=
  if fourRuns.fits cs then .fourNumbers
  else if cs.head? = some '[' && cs.getLast? = some ']' then .groups
  else .name

/-- The parts of a text between points. -/
def parts (cs : List Char) : List (List Char) :=
  cs.splitOnP (· = '.')

/-- Whether a text writes a number of at most eight bits without needless zeros. -/
def isByte (cs : List Char) : Bool :=
  cs.all isAsciiDigit && (cs = ['0'] || cs.head? != some '0') && cs.length ≤ 3 &&
    match natOfDigits? cs with
    | some n => !cs.isEmpty && n < 256
    | none => false

/-- Whether a text is four numbers with points between them. -/
def isFourNumbers (cs : List Char) : Bool :=
  (parts cs).length = 4 && (parts cs).all isByte

/-- A hexadecimal digit. -/
def isHexDigit (c : Char) : Bool :=
  isAsciiDigit c || ('a' ≤ c && c ≤ 'f') || ('A' ≤ c && c ≤ 'F')

/-- Whether a text is a group of one to four hexadecimal digits. -/
def isGroup (cs : List Char) : Bool :=
  !cs.isEmpty && cs.length ≤ 4 && cs.all isHexDigit

/-- The groups that a text with colons between them writes. The last two may be written as four
numbers, if the text is at the end of the host. -/
def countGroups? (atEnd : Bool) (cs : List Char) : Option Nat :=
  if cs.isEmpty then some 0
  else
    let groups := cs.splitOnP (· = ':')
    let last := groups.getLast?.getD []
    if groups.all isGroup then some groups.length
    else if atEnd && isFourNumbers last && groups.dropLast.all isGroup then some (groups.length + 1)
    else none

/-- The text before two colons and the text after them. -/
def splitAtColons? : List Char → Option (List Char × List Char)
  | ':' :: ':' :: rest => some ([], rest)
  | c :: rest => (splitAtColons? rest).map fun (before, after) => (c :: before, after)
  | [] => none

/-- Whether a text writes eight groups, where two colons stand for at least one of them. -/
def isGroups (cs : List Char) : Bool :=
  match splitAtColons? cs with
  | none => countGroups? true cs = some 8
  | some (before, after) =>
    match countGroups? false before, countGroups? true after with
    | some m, some n => m + n < 8
    | _, _ => false

/-- Whether a text is groups, with a zone after a percent sign or without. -/
def isZonedGroups (cs : List Char) : Bool :=
  isGroups (cs.takeWhile (· != '%')) &&
    match cs.dropWhile (· != '%') with
    | [] => true
    | _ :: zone => !zone.isEmpty && !zone.contains '%'

/-- The points between the parts of a name: that of ASCII and those of other widths and scripts. -/
def isNamePoint (c : Char) : Bool :=
  c = '.' || c = '\u3002' || c = '\uff0e' || c = '\uff61'

/-- The greatest number of characters of a name in ASCII, without a point at its end. -/
def maxNameLength : Nat := 253

/-- Whether a text is a name, where capital letters count as small ones. -/
def isName (cs : List Char) : Bool :=
  cs.all (·.toNat < 0x80) ||
    let labels := (lower cs).splitOnP isNamePoint
    let labels := if labels.getLast? = some [] then labels.dropLast else labels
    match labels.mapM Label.toAscii? with
    | some written => (['.'].intercalate written).length ≤ maxNameLength
    | none => false

/-- Whether a text is a host. -/
def isValid (cs : List Char) : Bool :=
  match kind cs with
  | .fourNumbers => isFourNumbers cs
  | .groups => isZonedGroups (cs.drop 1).dropLast
  | .name => isName cs

end FieldRules.Text.Host
