import Gatehouse.Admin.Endpoint

/-!
# Base paths as templates

The admin API lives under a base path, and the router reads that path as a
template.  A name in braces stands for any one non-empty segment, or for the
end of one; a brace written twice stands for itself.  Some texts are no
template: those with a segment that starts with a colon or an asterisk, and
those whose braces do not pair up to one name at the end of a segment.

A base path without braces and without such segments stands for itself alone.
-/

namespace Gatehouse.Admin

inductive TemplatePiece where
  /-- A character that stands for itself. -/
  | literal (character : Char)
  /-- A name in braces, which stands for any text without a slash. -/
  | capture
  deriving DecidableEq, Repr

/-- A character of a template, with whether it is a brace that was written twice. -/
abbrev TemplateMark := Char × Bool

namespace BasePath

/-- The characters of a template; a brace that is written twice is one that stands for itself. -/
def marks : List Char → List TemplateMark
  | '\x7b' :: '\x7b' :: rest => ('\x7b', true) :: marks rest
  | '\x7d' :: '\x7d' :: rest => ('\x7d', true) :: marks rest
  | character :: rest => (character, false) :: marks rest
  | [] => []

/-- Where the reading of a template stands. -/
inductive ReadState where
  | plain
  | opened
  | name
  | closed
  deriving DecidableEq, Repr

/-- Reads one character, if it may stand there, and tells the piece that it ends. -/
def step (state : ReadState) (mark : TemplateMark) : Option (ReadState × Option TemplatePiece) :=
  match state with
  | .plain =>
      if mark = ('\x7b', false) then some (.opened, none)
      else if mark = ('\x7d', false) then none
      else some (.plain, some (.literal mark.1))
  | .opened =>
      if mark.1 = '\x7d' ∨ mark.1 = '*' ∨ mark.1 = '/' then none else some (.name, none)
  | .name =>
      if mark = ('\x7d', false) then some (.closed, some .capture)
      else if mark.1 = '*' ∨ mark.1 = '/' then none
      else some (.name, none)
  | .closed => if mark = ('/', false) then some (.plain, some (.literal '/')) else none

/-- The pieces of the marks from a state on, if they may stand there to the end. -/
def readFrom : ReadState → List TemplateMark → Option (List TemplatePiece)
  | .plain, [] => some []
  | .closed, [] => some []
  | _, [] => none
  | state, mark :: rest => do
      let (next, piece) ← step state mark
      return piece.toList ++ (← readFrom next rest)

/-- A segment that no template may hold. -/
def isReserved (segment : List Char) : Bool :=
  segment.head? = some ':' || segment.head? = some '*'

/-- The template of a base path, if it is one. -/
def template? (basePath : String) : Option (List TemplatePiece) :=
  if (basePath.toList.splitOn '/').any isReserved then none
  else readFrom .plain (marks basePath.toList)

/-- What a path holds behind a template, if it starts with what the template stands for. -/
def rest? : List TemplatePiece → List Char → Option (List Char)
  | [], path => some path
  | .literal character :: pieces, first :: path =>
      if first = character then rest? pieces path else none
  | .literal _ :: _, [] => none
  | .capture :: pieces, path =>
      if path.head?.all (· = '/') then none else rest? pieces (path.dropWhile (· ≠ '/'))

/-- The base path stands for a place that the router can serve. -/
def isServable (basePath : String) : Bool :=
  (template? basePath).isSome

/-- The endpoint at a path under a base path. -/
def endpoint? (basePath path : String) : Option Endpoint := do
  let rest ← rest? (← template? basePath) path.toList
  Endpoint.all.find? fun endpoint => endpoint.path.toList = rest

end BasePath

end Gatehouse.Admin
