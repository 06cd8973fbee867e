/-!
# Faults of the disk

Why an operation on files failed, with the wording that users see.
-/

namespace Gatehouse.Disk

/-- Why an operation on files failed. -/
inductive Error where
  | notFound
  | notPermitted
  | deviceFault
  /-- The name is in use by the system. -/
  | busy
  /-- The name is taken. -/
  | exists
  | notDirectory
  | isDirectory
  | full
  | readOnly
  | nameTooLong
  /-- The links of the path lead nowhere. -/
  | linkLoop
  /-- The path holds a character that no path can hold. -/
  | badCharacter
  /-- The path ends without a name. -/
  | noFileName (path : String)
  deriving DecidableEq, Repr

namespace Error

/-- The wording of an error of the system with its number. -/
def numbered (wording : String) (number : Nat) : String :=
  wording ++ " (os error " ++ toString number ++ ")"

def message : Error → String
  | .notFound => numbered "No such file or directory" 2
  | .deviceFault => numbered "Input/output error" 5
  | .notPermitted => numbered "Permission denied" 13
  | .busy => numbered "Device or resource busy" 16
  | .exists => numbered "File exists" 17
  | .notDirectory => numbered "Not a directory" 20
  | .isDirectory => numbered "Is a directory" 21
  | .full => numbered "No space left on device" 28
  | .readOnly => numbered "Read-only file system" 30
  | .nameTooLong => numbered "File name too long" 36
  | .linkLoop => numbered "Too many levels of symbolic links" 40
  | .badCharacter => "file name contained an unexpected NUL byte"
  | .noFileName path => path ++ " has no file name"

end Error

end Gatehouse.Disk
