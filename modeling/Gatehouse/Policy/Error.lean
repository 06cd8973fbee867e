import Gatehouse.Disk.Error
import Gatehouse.Report

/-!
# Faults of policies

Why a policy could not be loaded, replaced or watched.
-/

namespace Gatehouse

/-- Why an operation on a policy failed. -/
inductive PolicyError where
  | disk (error : Disk.Error)
  /-- The file is not UTF-8. -/
  | encoding (path : String)
  /-- Strict checking found defects. -/
  | invalid (report : Report)
  | watch
  deriving DecidableEq, Repr

namespace PolicyError

/-- The wording of a fault. -/
def message : PolicyError → String
  | .disk error => "IO error: " ++ error.message
  | .encoding path => path ++ " is not valid UTF-8"
  | .invalid report => report.summary
  | .watch => "Notify watcher error"

/-- The wording of a fault and of what caused it, the cause last. -/
def chain (error : PolicyError) : List String :=
  match error with
  | .disk cause => [error.message, cause.message]
  | error => [error.message]

end PolicyError

end Gatehouse
