import FieldRules.Failure
import FieldRules.Number.Numeral
import FieldRules.Service.Document

/-!
# Addresses of requests

A request is addressed by a reference to a resource of the service. It may start with a scheme, a
name before a colon. What then stands between two slashes and the next slash names a user, a host and
the number of a socket. None of these matters for the answer, nor does a query or a fragment, but the
host and the number must be well formed.

A reference with both a scheme and a host is full and taken as it is, and can only be reached if its
scheme is known; in any other, slashes at the start of the path are one. A segment of one dot stands
for nothing, and one of two dots takes the segment before it away.

A percent sign and two hexadecimal digits stand for a character. They are read twice, since the
address is unescaped where it is sent and where it is received. A byte that is no character of ASCII
is only told apart from those that are, as no resource has such a character in its path.

The service does not decide any of this. These are the rules of the client that sends its requests.

## Main definitions

* `Address` — what of a reference matters
* `Address.read` — the address that a reference writes
* `Address.reach` — the path of an address, if it can be reached
-/

namespace FieldRules

open Text

/-- An address. -/
structure Address where
  /-- The scheme of a full address, in small letters. -/
  scheme? : Option String
  path : List Char

namespace Address

/-! ## Paths -/

/-- The segments of a path without those of dots. The segments kept so far come last first; the one
before the first slash stays. -/
def resolveFrom (kept : List (List Char)) : List (List Char) → List (List Char)
  | [] => kept.reverse
  | segment :: rest =>
    if segment = ['.'] then resolveFrom kept rest
    else if segment = ['.', '.'] then
      resolveFrom (if kept = [[]] then kept else kept.drop 1) rest
    else resolveFrom (segment :: kept) rest

/-- A path without segments of dots. -/
def resolve (cs : List Char) : List Char :=
  ['/'].intercalate (resolveFrom [] (cs.splitOnP (· = '/')))

/-- A path with one slash at its start. -/
def withOneSlash (cs : List Char) : List Char :=
  '/' :: cs.dropWhile (· = '/')

/-- A path without the slashes at its end. -/
def dropSlashes (cs : List Char) : List Char :=
  (cs.reverse.dropWhile (· = '/')).reverse

/-- The character of a byte, replaced if it is none of ASCII. -/
def charOfByte (n : Nat) : Char :=
  if n < 0x80 then Char.ofNat n else '\ufffd'

/-- A text with the characters that percent signs stand for. A percent sign without two digits after
it stands for itself. -/
def unescape : List Char → List Char
  | '%' :: a :: b :: rest =>
    match Document.hexNumber? '0' '0' a b with
    | some n => charOfByte n :: unescape rest
    | none => '%' :: unescape (a :: b :: rest)
  | c :: rest => c :: unescape rest
  | [] => []

/-! ## Parts of a reference -/

/-- Whether a character ends the path of a reference. -/
def endsPath (c : Char) : Bool :=
  c = '?' || c = '#'

/-- Whether a character can stand in the name of a scheme. -/
def isSchemeChar (c : Char) : Bool :=
  c.isAlphanum || c = '+' || c = '.' || c = '-'

/-- The scheme at the start of a reference, and the rest. A scheme starts with a letter; it may be
empty. -/
def takeScheme (cs : List Char) : List Char × List Char :=
  let name := cs.takeWhile isSchemeChar
  match cs.dropWhile isSchemeChar with
  | ':' :: rest => if name.head?.all Char.isAlpha then (name, rest) else ([], cs)
  | _ => ([], cs)

/-- What stands between two slashes at the start of a reference without scheme and the next slash, and
the rest. -/
def takeAuthority : List Char → List Char × List Char
  | '/' :: '/' :: rest => rest.span fun c => !(c = '/' || endsPath c)
  | cs => ([], cs)

/-- A text up to the last place of a character and with it, and the rest. -/
def splitAfterLast (c : Char) (cs : List Char) : List Char × List Char :=
  ((cs.reverse.dropWhile (· != c)).reverse, (cs.reverse.takeWhile (· != c)).reverse)

/-- The host in what follows the user, and the rest. Brackets belong to the host. -/
def takeHost (cs : List Char) : List Char × List Char :=
  match cs with
  | '[' :: _ => if cs.contains ']' then splitAfterLast ']' cs else cs.span (· != ':')
  | _ => cs.span (· != ':')

/-- The user, the host and the socket in what stands between slashes. -/
def splitAuthority (cs : List Char) : List Char × List Char × List Char :=
  let (user, rest) := splitAfterLast '@' cs
  let (host, rest) := takeHost rest
  (user.dropLast, host, if rest.head? = some ':' then rest.drop 1 else rest)

/-! ## References -/

/-- The most characters of a reference. -/
def mostCharacters : Nat := 65536

/-- A control character of ASCII. -/
def isControl (c : Char) : Bool :=
  c.toNat < 0x20 || c.toNat = 0x7F

/-- What is wrong with a path that follows neither a scheme nor a host. -/
def barePathFault? : List Char → Option AddressFault
  | '/' :: '/' :: _ => some (.pathStart "//")
  | ':' :: _ => some (.pathStart ":")
  | _ => none

/-- What is wrong with a reference of the given parts. -/
def fault? (reference scheme user host socket path : List Char) : Option AddressFault :=
  if mostCharacters < reference.length then some .tooLong
  else
    match reference.find? isControl with
    | some c => some (.control c (reference.idxOf c))
    | none =>
      if !Host.isValid host && !host.isEmpty then
        some (.host (Host.kind host) (String.ofList host))
      else if !socket.isEmpty && (readWhole? socket).isNone then some (.socket (String.ofList socket))
      else if scheme.isEmpty && user.isEmpty && host.isEmpty && socket.isEmpty then
        barePathFault? path
      else none

/-- The address that a reference writes. -/
def read (reference : String) : Except Failure Address :=
  let cs := reference.toList
  let (scheme, rest) := takeScheme cs
  let (authority, rest) := takeAuthority rest
  let (user, host, socket) := splitAuthority authority
  let path := rest.takeWhile fun c => !endsPath c
  match fault? cs scheme user host socket path with
  | some fault => .error (.address fault)
  | none =>
    let isBare := scheme.isEmpty && user.isEmpty && host.isEmpty && socket.isEmpty
    let path := if isBare then path else resolve path
    if scheme.isEmpty || host.isEmpty then
      .ok ⟨none, unescape (unescape (resolve (withOneSlash path)))⟩
    else
      .ok ⟨some (String.ofList (lowerAscii scheme)), unescape (unescape path)⟩

/-- The schemes by which an address can be reached. -/
def schemes : List String :=
  ["http", "https", "ws", "wss"]

/-- The path of an address, if it can be reached. -/
def reach (address : Address) : Except Failure (List Char) :=
  match address.scheme? with
  | some scheme =>
    if schemes.contains scheme then .ok address.path else .error (.missingKey (.text scheme))
  | none => .ok address.path

end Address

end FieldRules
