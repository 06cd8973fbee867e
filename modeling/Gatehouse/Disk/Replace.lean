import Gatehouse.Disk.Volume
import Gatehouse.Text.Decimal

/-!
# Replacing files

New content never goes into a file that is in use.  It is written to a
temporary file in the same directory, made durable, and moved over the old file
in one step, so a reader sees the old content or the new.  Before that the old
content is copied to a backup that is named after the file and the time; if the
copy fails the replacement goes on without it.  If any other step fails, the old
file stays and the temporary file is taken away, if the volume lets it be.
-/

namespace Gatehouse.Disk

/-- A reading of the clock. -/
structure Timestamp where
  year : Int
  month : Nat
  day : Nat
  hour : Nat
  minute : Nat
  second : Nat
  deriving DecidableEq, Repr, Inhabited

namespace Timestamp

/-- A year in four digits, with its sign outside the years from 0 to 9999. -/
def yearText (year : Int) : String :=
  if year < 0 then "-" ++ Text.padded 4 year.natAbs
  else if 9999 < year then "+" ++ Text.padded 4 year.natAbs
  else Text.padded 4 year.natAbs

/-- The form that backup names carry. -/
def compact (time : Timestamp) : String :=
  yearText time.year ++ Text.padded 2 time.month ++ Text.padded 2 time.day ++ "-" ++
    Text.padded 2 time.hour ++ Text.padded 2 time.minute ++ Text.padded 2 time.second

end Timestamp

/-- The path of the backup of a file at a time. -/
def backupPath (path : Path) (time : Timestamp) : Path :=
  path.withFileName ((path.fileName?).getD "" ++ "." ++ time.compact ++ ".bak")

namespace Volume

/-- A name for a temporary file. -/
def temporaryName (attempt : Nat) : String :=
  ".rulegate." ++ Text.padded 6 attempt ++ ".tmp"

/-- The first of some attempts whose name is free in a directory. -/
def freeTemporary (volume : Volume) (directory : Location) : Nat → Nat → Option Location
  | 0, _ => none
  | fuel + 1, attempt =>
      let location := directory ++ [temporaryName attempt]
      if (volume.entry? location).isNone then some location
      else freeTemporary volume directory fuel (attempt + 1)

/-- Makes an empty temporary file in a directory and tells its place. -/
def createTemporary (volume : Volume) (directory : Path) :
    Except Error (Location × Volume) := do
  checkPath (directory.child (temporaryName 0))
  let place ← volume.resolveDirectory directory (parts directory)
  volume.allow .createTemporary
  match volume.freeTemporary place (volume.entries.length + 1) 0 with
  | some location => return (location, volume.put location (.file .empty))
  | none => throw .exists

def fill (volume : Volume) (temporary : Location) (content : ByteArray) :
    Except Error Unit × Volume :=
  (volume.allow .fill, volume.put temporary (.file (volume.carry .fill content)))

/-- Takes a temporary file away, unless that is refused; nobody is told. -/
def discard (volume : Volume) (temporary : Location) : Volume :=
  if (volume.refusal .removeTemporary).isNone then volume.erase temporary else volume

/-- Moves a temporary file over what a path names; a link there is replaced itself. -/
def moveOnto (volume : Volume) (temporary : Location) (path : Path) : Except Error Volume := do
  checkPath path
  let (above, name) := lastPart path
  let directory ← volume.resolveDirectory path above
  match name with
  | none => throw .busy
  | some name =>
      let location ← place directory name
      if endsWithSlash path then throw .notDirectory
      match volume.entry? temporary, volume.entry? location with
      | none, _ => throw .notFound
      | some _, some .directory => throw .isDirectory
      | some entry, _ =>
          volume.allow .rename
          return (volume.erase temporary).put location entry

/-- Replaces the content of a file in one step; on failure the file is as before. -/
def replaceFile (volume : Volume) (path : Path) (content : ByteArray) :
    Except Error Unit × Volume :=
  match volume.createTemporary path.directory with
  | .error error => (.error error, volume)
  | .ok (temporary, staged) =>
      let (written, filled) := staged.fill temporary content
      let finished : Except Error Volume := do
        written
        filled.allow .sync
        filled.moveOnto temporary path
      match finished with
      | .ok moved => (.ok (), moved)
      | .error error => (.error error, filled.discard temporary)

/-- Copies what a path names to its backup, if there is anything. -/
def backUp (volume : Volume) (path : Path) (time : Timestamp) : Volume :=
  if volume.hasAt path then volume.copyFile path (backupPath path time) else volume

/-- Backs a file up as far as possible, then replaces it. -/
def replaceWithBackup (volume : Volume) (path : Path) (content : ByteArray) (time : Timestamp) :
    Except Error Unit × Volume :=
  (volume.backUp path time).replaceFile path content

/-- Makes an empty file, and its directory, unless something stands there.
Tells whether it made one. -/
def ensureFile (volume : Volume) (path : Path) : Except Error Bool × Volume :=
  if volume.hasAt path then (.ok false, volume)
  else
    match createDirectories (path.directory.length + 2) volume path.directory with
    | (.error error, left) => (.error error, left)
    | (.ok (), above) =>
        match above.createFile path with
        | .ok made => (.ok true, made)
        | .error .exists => (.ok false, above)
        | .error error => (.error error, above)

/-- Where another writer's plain write goes: through a link, into a file or a free name. -/
def overwrite (volume : Volume) (path : Path) (content : ByteArray) : Except Error Volume :=
  match volume.copyTarget? path with
  | some location => .ok (volume.put location (.file content))
  | none => .error .isDirectory

/-- Takes away what stands at a path, with everything below it. -/
def remove (volume : Volume) (path : Path) : Except Error Volume := do
  checkPath path
  let (above, name) := lastPart path
  let directory ← volume.resolveDirectory path above
  match name with
  | none => throw .busy
  | some name =>
      let location ← place directory name
      return { volume with entries :=
        volume.entries.filter fun pair => !location.isPrefixOf pair.1 }

end Volume

end Gatehouse.Disk
