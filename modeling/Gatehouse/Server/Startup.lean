import Gatehouse.Backend
import Gatehouse.Bypass
import Gatehouse.Policy.Watch
import Gatehouse.Settings.Basic

/-!
# Starting the server

The server starts with both policies loaded or not at all.  A policy file that
is missing is made, with the directories above it, and is empty; a file that is
there is not touched.  The client for the application is built last, and that
may fail as well.
-/

namespace Gatehouse

open Disk (Path Volume)

variable [PatternEngine]

/-- The server: its settings, the two policies and the application behind it. -/
structure Server where
  settings : Settings
  bypass : PolicyFile BypassEntry
  cache : PolicyFile CacheRule
  /-- The application, if there is one. -/
  backend : Option Backend

/-- What failed while the server was to start. -/
inductive StartupFault where
  | policy (error : PolicyError)
  /-- The client for the application cannot be built. -/
  | client (wording : String)
  deriving DecidableEq, Repr

/-- The wording of a fault and of what caused it, the cause last. -/
def StartupFault.chain : StartupFault → List String
  | .policy error => error.chain
  | .client wording => [wording]

/-- Why the server did not start. -/
structure StartupError where
  /-- What was to be done. -/
  context : String
  /-- What failed. -/
  cause : StartupFault
  deriving DecidableEq, Repr

def StartupError.chain (error : StartupError) : List String :=
  error.context :: error.cause.chain

namespace Server

/-- Loads the policy of a file, which is made if it is missing. -/
def openPolicy {Rule : Type} (grammar : Grammar Rule) (path : Path) (volume : Volume) :
    Except StartupError (PolicyFile Rule) × Volume :=
  match volume.ensureFile path with
  | (.error error, left) => (.error ⟨"failed to create " ++ path, .policy (.disk error)⟩, left)
  | (.ok _, ready) =>
      match PolicyFile.openAt grammar path ready with
      | .error error =>
          (.error ⟨"failed to load " ++ grammar.name ++ " policy from " ++ path, .policy error⟩,
            ready)
      | .ok policy => (.ok policy, ready)

/-- The application that the settings name, if they name one.  `fault?` tells why no client with a
timeout in seconds can be built, if none can. -/
def connect (fault? : Nat → Option String) (settings : Settings) :
    Except StartupError (Option Backend) :=
  match settings.backendUrl with
  | none => .ok none
  | some url =>
      match fault? settings.backendTimeout with
      | none => .ok (some (Backend.ofUrl url))
      | some wording => .error ⟨"failed to build upstream client for " ++ url, .client wording⟩

/-- Starts the server: the bypass policy is loaded first, then the cache policy, and then the
client is built. -/
def startWith (fault? : Nat → Option String) (settings : Settings) (volume : Volume) :
    Except StartupError Server × Volume :=
  match openPolicy bypassGrammar settings.bypassFile volume with
  | (.error error, left) => (.error error, left)
  | (.ok bypass, half) =>
      match openPolicy cacheGrammar settings.cacheFile half with
      | (.error error, left) => (.error error, left)
      | (.ok cache, ready) =>
          ((connect fault? settings).map fun backend => ⟨settings, bypass, cache, backend⟩, ready)

/-- Starts the server where a client can always be built. -/
def start (settings : Settings) (volume : Volume) : Except StartupError Server × Volume :=
  startWith (fun _ => none) settings volume

/-- Which policy cannot be watched. -/
inductive WatchFailure where
  | bypass
  | cache
  deriving DecidableEq, Repr

/-- The wording of a failure to watch. -/
def WatchFailure.message : WatchFailure → String
  | .bypass => "failed to watch bypass policy"
  | .cache => "failed to watch cache policy"

/-- What is to be watched for both policies. -/
def watchTargets (server : Server) (volume : Volume) :
    Except WatchFailure (WatchTarget × WatchTarget) := do
  let bypass ← (WatchTarget.of volume server.bypass.path).mapError fun _ => .bypass
  let cache ← (WatchTarget.of volume server.cache.path).mapError fun _ => .cache
  return (bypass, cache)

end Server

end Gatehouse
