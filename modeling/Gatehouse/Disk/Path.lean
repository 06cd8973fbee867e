import Gatehouse.Text.Pieces

/-!
# Paths as text

The parts of a written path.  A path is cut at its slashes; empty pieces and
`.` behind the first piece mean nothing, so they are passed over where the last
part or the parent is asked for, but what stands before is kept as written.
-/

namespace Gatehouse.Disk

/-- A written path. -/
abbrev Path := String

namespace Path

def pieces (path : Path) : List String :=
  Text.split '/' path

/-- The path starts at the root. -/
def isAbsolute (path : Path) : Bool :=
  Text.startsWith path "/"

/-- Drops the pieces at the end, last first, that mean nothing; the first piece of all stays. -/
def dropIdle : List String → List String
  | [] => []
  | [first] => [first]
  | last :: others => if last = "" ∨ last = "." then dropIdle others else last :: others

/-- The pieces up to the last that means something, the last first. -/
def meaningful (path : Path) : List String :=
  dropIdle path.pieces.reverse

/-- The name of the last part, unless the path ends with none, with `.` or with `..`. -/
def fileName? (path : Path) : Option String :=
  match path.meaningful with
  | [] => none
  | last :: _ => if last = "" ∨ last = "." ∨ last = ".." then none else some last

/-- The text of pieces that are given last first. -/
def ofReversed (pieces : List String) : Path :=
  match pieces with
  | [""] => "/"
  | pieces => Text.join "/" pieces.reverse

/-- The path without its last part; the root and the empty path have none. -/
def parent? (path : Path) : Option Path :=
  match path.meaningful with
  | [] => none
  | [only] => if only = "" then none else some ""
  | _ :: others => some (ofReversed (dropIdle others))

def child (path : Path) (name : String) : Path :=
  if path = "" ∨ Text.endsWith path "/" then path ++ name else path ++ "/" ++ name

/-- The path with its last part, if it has one, replaced by a name. -/
def withFileName (path : Path) (name : String) : Path :=
  match path.fileName? with
  | some _ => ((path.parent?).getD "").child name
  | none => path.child name

/-- The directory that holds what a path names. -/
def directory (path : Path) : Path :=
  match path.parent? with
  | some parent => if parent = "" then "." else parent
  | none => "."

end Path

end Gatehouse.Disk
