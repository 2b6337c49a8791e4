import FieldRules.Platform.Mark

/-!
# Directions of writing

Some scripts are written from left to right and some from right to left. Digits and hyphens take the
direction of what stands around them, and marks that of their letter. Where letters of one direction
stand beside those of the other, the order on paper does not tell the order in the text; so a part of
a host name with letters or digits of a script that is written from right to left may hold no others.

The tables are those of Unicode 14 for what names of hosts are made of. Their ranges may run over
marks and over characters that no name holds.

## Main definitions

* `Direction` — what a character does to the direction
* `direction` — what it is for a character
* `isOneWay` — whether the order on paper tells the order in the text
-/

namespace FieldRules.Text

/-- What a character does to the direction of writing. -/
inductive Direction where
  | left
  | right
  | number
  | arabicNumber
  | neutral
  | mark
  deriving DecidableEq

/-- Letters of scripts that are written from right to left. -/
def rightLetters : CharClass := [
  (0x05D0, 0x064A), (0x066E, 0x06EF), (0x06FA, 0x08C9), (0xFE73, 0xFE73), (0x10800, 0x10D23),
    (0x10E80, 0x10FF6), (0x1E800, 0x1E959)]

/-- Digits that are written in either direction. -/
def numberDigits : CharClass := [
  (0x0030, 0x0039), (0x06F0, 0x06F9)]

/-- Digits that belong to scripts written from right to left. -/
def arabicNumberDigits : CharClass := [
  (0x0660, 0x0669), (0x10D30, 0x10D39)]

/-- Signs that have no direction. -/
def neutralSigns : CharClass := [
  (0x002D, 0x002D), (0x00B7, 0x00B7), (0x02B9, 0x02BA), (0x02C6, 0x02CF), (0x02EC, 0x02EC),
    (0x0375, 0x0375), (0x200C, 0x200D), (0x2E2F, 0x2E2F), (0x30FB, 0x30FB), (0xA67F, 0xA67F),
    (0xA717, 0xA71F), (0xA788, 0xA788)]

/-- Marks over or under a letter that count as letters from left to right. -/
def leftMarks : CharClass := [
  (0x0CBF, 0x0CBF), (0x0CC6, 0x0CC6), (0x11A07, 0x11A08), (0x11C3F, 0x11C3F)]

/-- What a character does to the direction of writing. -/
def direction (c : Char) : Direction :=
  if leftMarks.has c then .left
  else if nonSpacingMarks.has c then .mark
  else if neutralSigns.has c then .neutral
  else if numberDigits.has c then .number
  else if arabicNumberDigits.has c then .arabicNumber
  else if rightLetters.has c then .right
  else .left

/-- Whether the order on paper tells the order in the text. Where something is written from right to
left, the text starts with a letter of that direction and, but for marks, ends with one or with a
digit; it has no letter of the other direction, and digits of one kind only. -/
def isOneWay (cs : List Char) : Bool :=
  let ways := cs.map direction
  let last? := (ways.filter (· != .mark)).getLast?
  !(ways.contains .right || ways.contains .arabicNumber) ||
    (ways.head? = some .right && !ways.contains .left &&
      last?.all (fun way => way = .right || way = .number || way = .arabicNumber) &&
      !(ways.contains .number && ways.contains .arabicNumber))

end FieldRules.Text
