import Gatehouse.Text.Decimal
import Gatehouse.Text.Pieces
import Gatehouse.Text.Utf8

/-!
# URLs as clients resolve them

A client that is given the URL of a web server does not ask for the path as it
is written.  It takes a backslash for a slash, resolves the segments `.` and
`..` also where the dots are written as escapes, keeps all other escapes, and
escapes the characters that a path must not hold.  What it asks for is the path
that the server receives.

What may stand for a host is for the client to say, so it is a parameter here.
Behind the host only a port can follow, and in front of it only a user.
-/

namespace Gatehouse.Http

/-- A URL of a web server, resolved. -/
structure Url where
  /-- The scheme in small letters. -/
  scheme : String
  /-- The authority as written. -/
  authority : String
  segments : List (List Char)
  query : Option (List Char)
  deriving DecidableEq, Repr

namespace Url

/-- A capital hexadecimal digit. -/
def hexDigit (value : Nat) : Char :=
  (Nat.digitChar value).toUpper

/-- A byte as an escape. -/
def escapeByte (byte : UInt8) : List Char :=
  ['%', hexDigit (byte.toNat / 16), hexDigit (byte.toNat % 16)]

/-- A character, or its bytes as escapes where it must not stand. -/
def escapeChar (mustEscape : Char → Bool) (character : Char) : List Char :=
  if mustEscape character then (Text.encode character.toString).data.toList.flatMap escapeByte
  else [character]

/-- A control character, or a character outside ASCII. -/
def isUnprintable (character : Char) : Bool :=
  character.toNat < 0x20 || 0x7E < character.toNat

def escapedInPath (character : Char) : Bool :=
  isUnprintable character || " \"#<>?^\x60\x7b\x7d".toList.contains character

def escapedInQuery (character : Char) : Bool :=
  isUnprintable character || " \"#<>\x27".toList.contains character

def isSeparator (character : Char) : Bool :=
  character = '/' || character = '\\'

/-- One dot, as itself or as an escape. -/
def dotSpellings : List (List Char) :=
  [['.'], "%2e".toList]

/-- The segment means its own directory. -/
def isHere (segment : List Char) : Bool :=
  dotSpellings.contains (Text.asciiLowerChars segment)

/-- The segment means the directory above. -/
def isAbove (segment : List Char) : Bool :=
  dotSpellings.any fun first => dotSpellings.any fun second =>
    first ++ second == Text.asciiLowerChars segment

/-- The resolved segments, last first, after one more that a separator follows. -/
def enter (kept : List (List Char)) (segment : List Char) : List (List Char) :=
  if isAbove segment then kept.tail
  else if isHere segment then kept
  else segment.flatMap (escapeChar escapedInPath) :: kept

/-- The resolved segments, last first, after the last; a directory ends with an empty segment. -/
def finish (kept : List (List Char)) (segment : List Char) : List (List Char) :=
  if isAbove segment then [] :: kept.tail
  else if isHere segment then [] :: kept
  else segment.flatMap (escapeChar escapedInPath) :: kept

/-- Resolves the segments of a path from the last of which nothing follows. -/
def resolveFrom (kept : List (List Char)) : List (List Char) → List (List Char)
  | [] => kept
  | [last] => finish kept last
  | segment :: rest => resolveFrom (enter kept segment) rest

/-- Resolves a written path; the first separator only starts it. -/
def resolvePath (path : List Char) : List (List Char) :=
  let body := match path with
    | [] => []
    | first :: rest => if isSeparator first then rest else path
  (resolveFrom [] (body.splitOnP isSeparator)).reverse

/-- Blanks and line ends that a written URL does not mean. -/
def strip (characters : List Char) : List Char :=
  let isEdge (character : Char) : Bool := character.toNat ≤ 0x20
  let trimmed := ((characters.dropWhile isEdge).reverse.dropWhile isEdge).reverse
  trimmed.filter fun character => !(['\t', '\n', '\r'].contains character)

/-- Cuts an authority at the colon in front of the port: a colon in brackets belongs to the host. -/
def cutPort (inBrackets : Bool) : List Char → List Char × Option (List Char)
  | [] => ([], none)
  | character :: rest =>
      if character = ':' ∧ ¬inBrackets then ([], some rest)
      else
        let (host, port) := cutPort (character = '[' || character ≠ ']' && inBrackets) rest
        (character :: host, port)

/-- The text can stand for a port; an empty one stands for the usual port. -/
def isPort (text : List Char) : Bool :=
  text.isEmpty || (Text.natural? text).any (· < 65536)

/-- The text names a host, with a user in front of it or a port behind it or without. -/
def isAuthority (isHost : List Char → Bool) (authority : List Char) : Bool :=
  let (host, port) := cutPort false (authority.reverse.takeWhile (· ≠ '@')).reverse
  !host.isEmpty && isHost host && port.all isPort

/-- A host without a character that no name of a host holds, or an address in brackets. -/
def isPlainHost : List Char → Bool
  | '[' :: rest =>
      rest.getLast? == some ']' && rest.dropLast.all "0123456789abcdefABCDEF:.".toList.contains
  | host => host.all fun character =>
      0x20 < character.toNat && character.toNat ≠ 0x7F &&
        !"#%/:<>?@[\\]^|".toList.contains character

/-- Reads the URL of a web server, for a client that takes some texts for hosts; any other text is
refused. -/
def parse? (isHost : List Char → Bool) (text : String) : Option Url := do
  let written := (strip text.toList).takeWhile (· ≠ '#')
  let (scheme, rest) ← Text.cutChars ':' written
  let scheme := String.ofList (Text.asciiLowerChars scheme)
  guard (["http", "https"].contains scheme)
  let rest := rest.dropWhile isSeparator
  let authority := rest.takeWhile fun character => !isSeparator character && character ≠ '?'
  guard (isAuthority isHost authority)
  let rest := rest.drop authority.length
  match Text.cutChars '?' rest with
  | some (path, query) =>
      return ⟨scheme, .ofList authority, resolvePath path,
        some (query.flatMap (escapeChar escapedInQuery))⟩
  | none => return ⟨scheme, .ofList authority, resolvePath rest, none⟩

/-- The path that is asked for. -/
def path (url : Url) : String :=
  .ofList ('/' :: ['/'].intercalate url.segments)

end Url

end Gatehouse.Http
