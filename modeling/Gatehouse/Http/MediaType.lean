import Gatehouse.Text.Pieces

/-!
# Media types

Reading the value of a content type: a type and a subtype, each a token, and
parameters behind semicolons.  A subtype may end with a plus and a suffix that
names the structure of the content.  Anything else is no media type.
-/

namespace Gatehouse.Http

/-- A media type; its parameters are checked but not kept. -/
structure MediaType where
  /-- The part before the slash, in small letters. -/
  main : String
  /-- The part behind the slash and before the last plus, in small letters. -/
  subtype : String
  /-- The part behind the last plus, in small letters, if there is one. -/
  structured : Option String
  deriving DecidableEq, Repr

namespace MediaType

/-- A character of a token. -/
def isTokenChar (character : Char) : Bool :=
  character.isAlphanum || "!#$%&\x27*+-.^_\x60|~".toList.contains character

/-- A character between the quotation marks of a parameter's value. -/
def isQuotedChar (character : Char) : Bool :=
  31 < character.toNat && character.toNat ≠ 127

/-- Where the reading of parameters stands. -/
inductive ParameterState where
  | start
  | name
  | valueStart
  | value
  | quoteStart
  | quote
  | quoteEnd
  deriving DecidableEq, Repr

namespace ParameterState

/-- Reads one character, if it may stand there. -/
def step (state : ParameterState) (character : Char) : Option ParameterState :=
  match state with
  | .start =>
      if character = ' ' then some .start
      else if isTokenChar character then some .name
      else none
  | .name =>
      if character = '=' then some .valueStart
      else if isTokenChar character then some .name
      else none
  | .valueStart =>
      if character = '"' then some .quoteStart
      else if isTokenChar character then some .value
      else none
  | .value =>
      if character = ';' then some .start
      else if isTokenChar character then some .value
      else none
  | .quoteStart => if isQuotedChar character then some .quote else none
  | .quote =>
      if character = '"' then some .quoteEnd
      else if isQuotedChar character then some .quote
      else none
  | .quoteEnd =>
      if character = ';' then some .start
      else if character = ' ' then some .quoteEnd
      else none

/-- The parameters may end here. -/
def isFinal : ParameterState → Bool
  | .start | .valueStart | .value | .quoteEnd => true
  | .name | .quoteStart | .quote => false

end ParameterState

/-- What stands behind the first semicolon is a list of parameters. -/
def areParameters (characters : List Char) : Bool :=
  (characters.foldlM ParameterState.step .start).any ParameterState.isFinal

/-- The part before the last plus and the part behind it; a plus in front divides nothing. -/
def cutSuffix (characters : List Char) : List Char × Option (List Char) :=
  let suffix := characters.reverse.takeWhile (· ≠ '+')
  let before := characters.take (characters.length - suffix.length - 1)
  if before.isEmpty then (characters, none) else (before, some suffix.reverse)

/-- The media type of a type, a subtype and its suffix. -/
def ofParts (main subtype : List Char) : MediaType :=
  let small (characters : List Char) : String := .ofList (Text.asciiLowerChars characters)
  let (before, suffix) := cutSuffix subtype
  ⟨small main, small before, suffix.map small⟩

def parse? (text : String) : Option MediaType := do
  let (main, rest) ← Text.cutChars '/' text.toList
  guard (!main.isEmpty && main.all isTokenChar)
  match Text.cutChars ';' rest with
  | some (subtype, parameters) =>
      guard (!subtype.isEmpty && subtype.all isTokenChar && areParameters parameters)
      return ofParts main subtype
  | none =>
      guard (rest.all isTokenChar)
      return ofParts main rest

def isJson (mediaType : MediaType) : Bool :=
  mediaType.main == "application" &&
    (mediaType.subtype == "json" || mediaType.structured == some "json")

end MediaType

end Gatehouse.Http
