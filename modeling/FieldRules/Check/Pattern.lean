import FieldRules.Text.Digit
import FieldRules.Text.Shape

/-!
# Patterns of texts

The shapes of an e-mail address, a web address, a word and a colour. All their classes are classes of
ASCII characters.

## Main definitions

* `Pattern.email`, `Pattern.url`, `Pattern.word`, `Pattern.colour` — the shapes
-/

namespace FieldRules.Pattern

open Text

/-- The small letters of ASCII. -/
def small : CharClass := .range 'a' 'z'

/-- The capital letters of ASCII. -/
def capital : CharClass := .range 'A' 'Z'

/-- The letters and digits of ASCII, and the underscore. -/
def wordChar : CharClass := small ++ capital ++ asciiDigits ++ .just '_'

/-- The characters of the part of an e-mail address before the at sign. -/
def mailboxChar : CharClass := wordChar ++ .anyOf ".-+"

/-- The characters of the name of a host. -/
def hostChar : CharClass := small ++ asciiDigits ++ .anyOf ".-"

/-- The characters of the last part of the name of a host. -/
def endingChar : CharClass := small ++ .just '.'

/-- The characters of a path. -/
def pathChar : CharClass := wordChar ++ .anyOf "/ .-"

/-- The hexadecimal digits. -/
def hexDigit : CharClass := asciiDigits ++ .range 'a' 'f' ++ .range 'A' 'F'

/-- The name of a host: characters of a host, a point, and an ending of two to six characters. -/
def host : Shape :=
  .all [.oneOrMore (.one hostChar), .literal ['.'], (Shape.one endingChar).between 2 4]

/-- An e-mail address. -/
def email : Shape :=
  .all [.oneOrMore (.one mailboxChar), .literal ['@'], host]

/-- The beginning of a web address that names its protocol. -/
def protocol : Shape :=
  .all [.literal ['h', 't', 't', 'p'], .maybe (.literal ['s']), .literal [':', '/', '/']]

/-- A web address: a protocol that may be missing, a host, and a path that may be empty. -/
def url : Shape :=
  .all [.maybe protocol, host, .many (.one pathChar), .maybe (.literal ['/'])]

/-- A text of letters, digits and underscores. -/
def word : Shape :=
  .oneOrMore (.one wordChar)

/-- A colour: a number sign and six or three hexadecimal digits. -/
def colour : Shape :=
  .seq (.literal ['#']) (.or ((Shape.one hexDigit).times 6) ((Shape.one hexDigit).times 3))

end FieldRules.Pattern
