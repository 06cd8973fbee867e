import Gatehouse.Disk.Error
import Gatehouse.Disk.Path

/-!
# Volumes

What is on a disk: files, directories and links, each at its place.  A path is
followed part by part from the working directory or the root, through links,
until it ends at something or at a name that is free.

A volume also says which kinds of step it refuses, so that every operation can
fail at each of its steps.  A step that writes a content may fail when part of the
content has got through.
-/

namespace Gatehouse.Disk

/-- A place: the names from the root down. -/
abbrev Location := List String

/-- What stands at a place. -/
inductive Entry where
  | file (content : ByteArray)
  | directory
  | link (target : Path)

/-- The kinds of step that a volume may refuse. -/
inductive Step where
  /-- To read a file that is loaded. -/
  | read
  /-- To read a file for a client, or to see whether a writer knows it. -/
  | look
  | createTemporary
  | fill
  | sync
  | rename
  | removeTemporary
  | createDirectory
  | createFile
  /-- To open a file and its copy. -/
  | copy
  /-- To write a copy that is open. -/
  | copyContent
  deriving DecidableEq, Repr

/-- The state of a disk. -/
structure Volume where
  /-- What stands at each place; the root is a directory without being listed. -/
  entries : List (Location × Entry)
  /-- Where relative paths start. -/
  workingDirectory : Location
  /-- The kinds of step that fail, and why. -/
  refusal : Step → Option Error := fun _ => none
  /-- How many bytes get through when a step fails that writes a content. -/
  passed : Step → Nat := fun _ => 0

namespace Volume

def entry? (volume : Volume) (location : Location) : Option Entry :=
  if location = [] then some .directory else volume.entries.lookup location

def erase (volume : Volume) (location : Location) : Volume :=
  { volume with entries := volume.entries.filter fun pair => pair.1 ≠ location }

/-- Puts something at a place, whatever stood there. -/
def put (volume : Volume) (location : Location) (entry : Entry) : Volume :=
  { volume with entries := (location, entry) :: (volume.erase location).entries }

/-- Where a path ends. -/
inductive Target where
  /-- At a place where something stands. -/
  | found (location : Location)
  /-- At a free name in a directory. -/
  | free (location : Location)
  deriving DecidableEq, Repr

/-- The number of links that a path may lead through. -/
def linkLimit : Nat := 40

/-- The greatest number of bytes of a name. -/
def nameLimit : Nat := 255

/-- The number of bytes that no path reaches. -/
def pathLimit : Nat := 4096

/-- The parts of a path that are followed one by one; a slash at the end asks
for a directory, as `.` does. -/
def parts (path : Path) : List String :=
  let named := path.pieces.filter fun piece => piece ≠ ""
  if Text.endsWith path "/" then named ++ ["."] else named

/-- Follows parts from a directory; the last link of all is followed only if asked. -/
def follow (volume : Volume) (followLast : Bool) :
    Nat → Location → List String → Except Error Target
  | links, current, parts =>
      match parts with
      | [] => .ok (.found current)
      | part :: rest =>
          if part = "." then follow volume followLast links current rest
          else if part = ".." then follow volume followLast links current.dropLast rest
          else if part.utf8ByteSize > nameLimit then .error .nameTooLong
          else
            let next := current ++ [part]
            match volume.entry? next with
            | none => if rest = [] then .ok (.free next) else .error .notFound
            | some (.file _) => if rest = [] then .ok (.found next) else .error .notDirectory
            | some .directory => follow volume followLast links next rest
            | some (.link target) =>
                if rest = [] ∧ ¬followLast then .ok (.found next)
                else
                  match links with
                  | 0 => .error .linkLoop
                  | links + 1 =>
                      if target = "" then .error .notFound
                      else
                        follow volume followLast links
                          (if target.isAbsolute then [] else current)
                          (Volume.parts target ++ rest)
termination_by links _ parts => (links, parts.length)

/-- A path that can be followed at all. -/
def checkPath (path : Path) : Except Error Unit :=
  if path.toList.contains '\x00' then .error .badCharacter
  else if path = "" then .error .notFound
  else if path.utf8ByteSize ≥ pathLimit then .error .nameTooLong
  else .ok ()

def origin (volume : Volume) (path : Path) : Location :=
  if path.isAbsolute then [] else volume.workingDirectory

/-- Follows a path, through a link at its end too. -/
def resolve (volume : Volume) (path : Path) : Except Error Target := do
  checkPath path
  volume.follow true linkLimit (volume.origin path) (parts path)

/-- What a path names, through links. -/
def at? (volume : Volume) (path : Path) : Option Entry :=
  match volume.resolve path with
  | .ok (.found location) => volume.entry? location
  | _ => none

/-- Something stands where a path leads. -/
def hasAt (volume : Volume) (path : Path) : Bool :=
  (volume.at? path).isSome

/-- A directory stands where a path leads. -/
def hasDirectoryAt (volume : Volume) (path : Path) : Bool :=
  match volume.at? path with
  | some .directory => true
  | _ => false

/-- The parts above the last part of a path, and the last part if it is a name: a path that
ends with `.`, `..` or nothing ends with no name. -/
def lastPart (path : Path) : List String × Option String :=
  match (path.pieces.filter fun piece => piece ≠ "").reverse with
  | [] => ([], none)
  | last :: others => (others.reverse, if last = "." ∨ last = ".." then none else some last)

/-- A slash stands at the end of a path. -/
def endsWithSlash (path : Path) : Bool :=
  Text.endsWith path "/"

/-- The directory in which the last part of a path is looked up. -/
def resolveDirectory (volume : Volume) (path : Path) (parts : List String) :
    Except Error Location := do
  match ← volume.follow true linkLimit (volume.origin path) (parts ++ ["."]) with
  | .found location => return location
  | .free _ => throw .notFound

/-- A place that a name in a directory stands for. -/
def place (directory : Location) (name : String) : Except Error Location :=
  if name.utf8ByteSize > nameLimit then .error .nameTooLong else .ok (directory ++ [name])

/-- A step goes ahead unless the volume refuses it. -/
def allow (volume : Volume) (step : Step) : Except Error Unit :=
  match volume.refusal step with
  | some error => .error error
  | none => .ok ()

/-- What of a content gets through in a step that writes it. -/
def carry (volume : Volume) (step : Step) (content : ByteArray) : ByteArray :=
  if (volume.refusal step).isNone then content else content.extract 0 (volume.passed step)

/-- The content of the file at a path; a volume that refuses to be read does not tell whether
there is one. -/
def read (volume : Volume) (path : Path) (step : Step := .read) : Except Error ByteArray := do
  volume.allow step
  match ← volume.resolve path with
  | .free _ => throw .notFound
  | .found location =>
      match volume.entry? location with
      | some (.file content) => return content
      | some .directory => throw .isDirectory
      | _ => throw .notFound

def createDirectory (volume : Volume) (path : Path) : Except Error Volume := do
  checkPath path
  let (above, name) := lastPart path
  let directory ← volume.resolveDirectory path above
  match name with
  | none => throw .exists
  | some name =>
      let location ← place directory name
      if (volume.entry? location).isSome then throw .exists
      else
        volume.allow .createDirectory
        return volume.put location .directory

/-- Makes a directory and those above it, as far as they are missing, and tells
what became of the volume; `fuel` bounds the number of directories above. -/
def createDirectories : Nat → Volume → Path → Except Error Unit × Volume
  | 0, volume, _ => (.error .notFound, volume)
  | fuel + 1, volume, path =>
      if path = "" then (.ok (), volume)
      else
        match volume.createDirectory path with
        | .ok made => (.ok (), made)
        | .error .notFound =>
            match (path.parent?).map (createDirectories fuel volume) with
            | none => (.error .notFound, volume)
            | some (.error error, above) => (.error error, above)
            | some (.ok (), above) =>
                match above.createDirectory path with
                | .ok made => (.ok (), made)
                | .error error =>
                    (if above.hasDirectoryAt path then .ok () else .error error, above)
        | .error error =>
            (if volume.hasDirectoryAt path then .ok () else .error error, volume)

/-- Makes an empty file at a path where nothing stands, not even a link. -/
def createFile (volume : Volume) (path : Path) : Except Error Volume := do
  checkPath path
  let (above, name) := lastPart path
  let directory ← volume.resolveDirectory path above
  match name with
  | none => throw .exists
  | some name =>
      if endsWithSlash path then throw .isDirectory
      let location ← place directory name
      if (volume.entry? location).isSome then throw .exists
      else
        volume.allow .createFile
        return volume.put location (.file .empty)

/-- Where a copy of a file would be written: through a link, but not over a directory. -/
def copyTarget? (volume : Volume) (path : Path) : Option Location :=
  match volume.resolve path with
  | .ok (.free location) => some location
  | .ok (.found location) =>
      match volume.entry? location with
      | some (.file _) => some location
      | _ => none
  | .error _ => none

/-- Copies a file, as far as possible.  The target is emptied before anything is read, so there
is nothing to copy where both are the same file. -/
def copyFile (volume : Volume) (source target : Path) : Volume :=
  match volume.at? source, volume.copyTarget? target, volume.refusal .copy with
  | some (.file _), some location, none =>
      let emptied := volume.put location (.file .empty)
      match emptied.at? source with
      | some (.file content) => emptied.put location (.file (emptied.carry .copyContent content))
      | _ => emptied
  | _, _, _ => volume

end Volume

end Gatehouse.Disk
