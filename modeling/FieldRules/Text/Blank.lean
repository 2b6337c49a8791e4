import FieldRules.Text.CharClass

/-!
# White space

Texts are trimmed and split at blanks: the white space of Unicode, and the four information
separators `U+001C` to `U+001F` as well. A zero-width space is no blank.

## Main definitions

* `spaces`, `blanks` — white space without and with the information separators
* `isSpace`, `isBlank` — whether a character is one of them
* `trim` — a text without the blanks around it
* `words` — the maximal runs of characters that are no blanks
-/

namespace FieldRules.Text

/-- The white space of Unicode. -/
def spaces : CharClass :=
  [(9, 13), (0x20, 0x20), (0x85, 0x85), (0xA0, 0xA0), (0x1680, 0x1680), (0x2000, 0x200A),
    (0x2028, 0x2029), (0x202F, 0x202F), (0x205F, 0x205F), (0x3000, 0x3000)]

/-- White space, the information separators included. -/
def blanks : CharClass :=
  spaces ++ [(0x1C, 0x1F)]

/-- Whether a character is white space. -/
def isSpace (c : Char) : Bool :=
  spaces.has c

/-- Whether a character is white space or an information separator. -/
def isBlank (c : Char) : Bool :=
  blanks.has c

/-- A text without the characters of a class at both ends. -/
def trimBy (inClass : Char → Bool) (cs : List Char) : List Char :=
  ((cs.dropWhile inClass).reverse.dropWhile inClass).reverse

/-- A text without the blanks around it. -/
def trim (cs : List Char) : List Char :=
  trimBy isBlank cs

/-- The words of a text: blanks separate them and are dropped, and no word is empty. -/
def words (cs : List Char) : List (List Char) :=
  (cs.splitOnP isBlank).filter fun word => !word.isEmpty

end FieldRules.Text
