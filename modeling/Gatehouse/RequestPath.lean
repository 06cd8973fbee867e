import Gatehouse.Percent
import Gatehouse.Text.Pieces

/-!
# Request paths

Rules and requests meet on decoded, cleaned paths.  `decoded` undoes percent
escapes and keeps the text as it is when its bytes are not UTF-8.  `segments`
resolves the text between the slashes: empty and `.` segments go, and `..`
takes the segment before it along, if there is one.  `normalize` writes the
segments as a rooted path and keeps a slash at the end.
-/

namespace Gatehouse.RequestPath

/-- The path with its escapes undone, or as it is when its bytes are not UTF-8. -/
def decoded (path : String) : String :=
  (Percent.decode? path).getD path

/-- The kept segments, last first, after one more segment. -/
def enter (kept : List (List Char)) (segment : List Char) : List (List Char) :=
  if segment = [] ∨ segment = ['.'] then kept
  else if segment = ['.', '.'] then kept.tail
  else segment :: kept

def resolve (segments : List (List Char)) : List (List Char) :=
  (segments.foldl enter []).reverse

/-- The resolved segments of a path's decoded text. -/
def segments (path : String) : List (List Char) :=
  resolve ((decoded path).toList.splitOn '/')

/-- A rooted path with the given segments. -/
def rooted (segments : List (List Char)) : List Char :=
  '/' :: ['/'].intercalate segments

/-- Normalizes the characters of a decoded path. -/
def normalizeChars (characters : List Char) : List Char :=
  let clean := rooted (resolve (characters.splitOn '/'))
  if characters.getLast? = some '/' ∧ clean ≠ ['/'] then clean ++ ['/'] else clean

/-- The path that rules and requests are compared by. -/
def normalize (path : String) : String :=
  .ofList (normalizeChars (decoded path).toList)

/-- Drops one slash at the end of anything but the root. -/
def withoutFinalSlash (characters : List Char) : List Char :=
  if characters = ['/'] then characters
  else if characters.getLast? = some '/' then characters.dropLast
  else characters

/-- Two normalized paths agree up to one slash at the end, the root apart. -/
def agree (first second : String) : Bool :=
  withoutFinalSlash first.toList == withoutFinalSlash second.toList

end Gatehouse.RequestPath
