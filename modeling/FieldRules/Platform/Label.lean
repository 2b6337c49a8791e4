import FieldRules.Platform.Composed
import FieldRules.Platform.Direction
import FieldRules.Platform.Joining
import FieldRules.Platform.NameLetter
import FieldRules.Platform.Punycode

/-!
# Parts of host names

The parts of a name of a host stand between points. A part is made of letters of host names and of
hyphens, in composed form. Hyphens stand neither at its ends nor at both its third and fourth place, it
does not start with a mark, and the order of its letters on paper tells their order in it. A few other
characters may stand only beside or together with certain letters.

A part that is not in ASCII has a form in ASCII, after two letters and two hyphens that tell so. The
form in ASCII has at most 63 characters.

## Main definitions

* `Label.isAllowedBetween` — whether a character may stand where it does
* `Label.isWellFormed` — whether a text can be a part of a name, whatever its length
* `Label.toAscii?` — the form in ASCII of a part of a name
-/

namespace FieldRules.Text.Label

/-! ## Scripts -/

/-- Small letters of the script of Greek. -/
def greekLetters : CharClass :=
  [(0x0371, 0x03E1), (0x03F3, 0x03FC), (0x1D26, 0x1D2A), (0x1F00, 0x1FF6), (0xAB65, 0xAB65)]

/-- Letters of the script of Hebrew. -/
def hebrewLetters : CharClass :=
  [(0x0591, 0x05F4), (0xFB1E, 0xFB1E)]

/-- Letters of the scripts of Japanese. -/
def japaneseLetters : CharClass :=
  [(0x3005, 0x3005), (0x3007, 0x3007), (0x3041, 0x3096), (0x309D, 0x309E), (0x30A1, 0x30FA),
    (0x30FD, 0x30FE), (0x31F0, 0x31FF), (0x3400, 0x9FFF), (0xFA0E, 0xFA29), (0x16FE3, 0x16FE3),
    (0x16FF0, 0x16FF1), (0x1AFF0, 0x1B122), (0x1B150, 0x1B152), (0x1B164, 0x1B167),
    (0x20000, 0x3134A)]

/-- Digits of Arabic. -/
def arabicDigits : CharClass :=
  [(0x0660, 0x0669)]

/-- Digits of the Persian form of Arabic. -/
def persianDigits : CharClass :=
  [(0x06F0, 0x06F9)]

/-! ## Characters in their places -/

/-- Whether a text, given from its end, ends with a mark that takes the vowel from its letter. -/
def endsWithVirama (before : List Char) : Bool :=
  before.head?.any fun c => combiningClass c = viramaClass

/-- Whether a character may stand between the text before it, given from its end, and the text after
it. Signs that part or join the letters beside them do so after a mark that takes the vowel, and the
first of them also between letters that would be joined without it. -/
def isAllowedBetween (before : List Char) (c : Char) (after : List Char) : Bool :=
  if c = '\u00b7' then before.head? = some 'l' && after.head? = some 'l'
  else if c = '\u0375' then after.head?.any greekLetters.has
  else if c = '\u05f3' || c = '\u05f4' then before.head?.any hebrewLetters.has
  else if c = '\u30fb' then (before ++ after).any japaneseLetters.has
  else if arabicDigits.has c then !(before ++ after).any persianDigits.has
  else if persianDigits.has c then !(before ++ after).any arabicDigits.has
  else if c = '\u200c' then
    endsWithVirama before || (joinsToNext before && joinsToPrevious after)
  else if c = '\u200d' then endsWithVirama before
  else nameLetters.has c

/-- Whether all characters of a text may stand in their places, after the text before it, which is
given from its end. -/
def areAllowedAfter (before : List Char) : List Char → Bool
  | [] => true
  | c :: rest => isAllowedBetween before c rest && areAllowedAfter (c :: before) rest

/-! ## Parts -/

/-- Whether no hyphen stands at an end or at both the third and the fourth place. -/
def areHyphensInside (cs : List Char) : Bool :=
  cs.head? != some '-' && cs.getLast? != some '-' && (cs.drop 2).take 2 != ['-', '-']

/-- Whether a text can be a part of a name, whatever its length. -/
def isWellFormed (cs : List Char) : Bool :=
  !cs.isEmpty && areHyphensInside cs && !cs.head?.any isMark && areAllowedAfter [] cs &&
    isOneWay cs && isComposed cs

/-- How the form in ASCII of a part starts that is not in ASCII itself. -/
def asciiStart : List Char := ['x', 'n', '-', '-']

/-- The greatest number of characters of a part in ASCII. -/
def maxLength : Nat := 63

/-- Whether a text in ASCII is a part of a name: it is well formed, or it is the form in ASCII of what
is. -/
def isAsciiLabel (cs : List Char) : Bool :=
  if asciiStart.isPrefixOf cs then
    let rest := cs.drop asciiStart.length
    !rest.isEmpty && rest.getLast? != some '-' && (Punycode.decode? rest).any isWellFormed
  else isWellFormed cs

/-- The form in ASCII of a part of a name without capital letters, if the text is one. A text that is
too long has no form that is short enough. -/
def toAscii? (cs : List Char) : Option (List Char) :=
  let ascii? :=
    if maxLength < cs.length then none
    else if cs.all (·.toNat < Punycode.firstCode) then if isAsciiLabel cs then some cs else none
    else if isWellFormed cs then some (asciiStart ++ Punycode.encode cs)
    else none
  ascii?.filter (·.length ≤ maxLength)

end FieldRules.Text.Label
