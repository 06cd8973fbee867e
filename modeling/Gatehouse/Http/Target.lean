import Gatehouse.Text.Pieces

/-!
# Request targets

What a request line asks for: a path with an optional query, the same behind a
scheme and an authority, an asterisk, or an authority alone.  A fragment is no
part of a target.
-/

namespace Gatehouse.Http

/-- What a request asks for. -/
structure Target where
  /-- What stands in front of the path: nothing, an authority, or a scheme and an authority. -/
  site : String
  /-- The path as written; empty only for an authority alone. -/
  path : String
  /-- What stands behind the question mark, if there is one. -/
  query : Option String
  deriving DecidableEq, Repr, Inhabited

namespace Target

/-- The schemes that are written in small letters. -/
def knownSchemes : List String :=
  ["http", "https"]

def schemeText (scheme : String) : String :=
  if knownSchemes.contains (Text.asciiLower scheme) then Text.asciiLower scheme else scheme

/-- The parts before and after the mark between a scheme and an authority. -/
def cutScheme : List Char → Option (List Char × List Char)
  | ':' :: '/' :: '/' :: rest => some ([], rest)
  | [] => none
  | character :: rest =>
      (cutScheme rest).map fun (scheme, behind) => (character :: scheme, behind)

/-- What stands in front of the query: the site and the path. -/
def siteAndPath (characters : List Char) : String × String :=
  if characters.head? = some '/' ∨ characters = ['*'] then ("", .ofList characters)
  else
    match cutScheme characters with
    | some (scheme, behind) =>
        let authority := behind.takeWhile (· ≠ '/')
        let path := behind.dropWhile (· ≠ '/')
        (schemeText (.ofList scheme) ++ "://" ++ .ofList authority,
          if path.isEmpty then "/" else .ofList path)
    | none => (.ofList characters, "")

def parse (text : String) : Target :=
  let written := text.toList.takeWhile (· ≠ '#')
  match Text.cutChars '?' written with
  | some (before, query) =>
      let (site, path) := siteAndPath before
      ⟨site, path, some (.ofList query)⟩
  | none =>
      let (site, path) := siteAndPath written
      ⟨site, path, none⟩

/-- The query with its question mark. -/
def querySuffix (target : Target) : String :=
  match target.query with
  | some query => "?" ++ query
  | none => ""

def render (target : Target) : String :=
  target.site ++ target.path ++ target.querySuffix

/-- The path with the query, or the root where there is no path. -/
def pathAndQuery (target : Target) : String :=
  if target.path = "" then "/" else target.path ++ target.querySuffix

end Target

end Gatehouse.Http
