import Gatehouse.Disk.Path
import Gatehouse.Settings.Environment
import Gatehouse.Text.Decimal
import Gatehouse.Text.Pieces
import Gatehouse.Unicode.CaseMap

/-!
# Settings

What the server is told by its environment.  Under a profile every variable is
first looked up with the profile in front of its name, then alone; an empty
value counts as none.  A number that is none leaves the default.
-/

namespace Gatehouse

/-- The settings of the server. -/
structure Settings where
  profile : String
  host : String
  port : Nat
  /-- Where requests are forwarded to. -/
  backendUrl : Option String
  /-- How long an answer may take, in seconds. -/
  backendTimeout : Nat
  bypassFile : Disk.Path
  cacheFile : Disk.Path
  /-- How long changes of a file settle, in milliseconds. -/
  debounce : Nat
  /-- The path in front of the admin routes. -/
  basePath : String
  /-- The first key of the admin API. -/
  primaryKey : Option String
  /-- The second key of the admin API. -/
  secondaryKey : Option String
  /-- The admin API asks for no key. -/
  openAdmin : Bool
  deriving DecidableEq, Repr

namespace Settings

/-- The value of a variable under a profile. -/
def lookup (environment : Environment) (profile name : String) : Option String :=
  if profile = "" then environment.given? name
  else (environment.given? (profile ++ "_" ++ name)).orElse fun _ => environment.given? name

/-- The number that a variable gives under a profile. -/
def number (environment : Environment) (profile name : String) (limit fallback : Nat) : Nat :=
  ((lookup environment profile name).bind (Text.naturalBelow? limit)).getD fallback

/-- A base path: trimmed, without slashes at the end, and with one in front; what
is nothing but slashes is the root. -/
def normalizeBasePath (written : String) : String :=
  let body := Text.dropEnding '/' (Text.trim written)
  if body = "" then "/" else if Text.startsWith body "/" then body else "/" ++ body

def forProfile (environment : Environment) (profile : String) : Settings :=
  let profile := Unicode.toCapitals profile
  let text (name fallback : String) : String := (lookup environment profile name).getD fallback
  { profile := profile
    host := text "HOST" "0.0.0.0"
    port := number environment profile "PORT" (Nat.pow 2 16) 9090
    backendUrl := lookup environment profile "UPSTREAM_URL"
    backendTimeout := number environment profile "UPSTREAM_TIMEOUT_SECS" (Nat.pow 2 64) 30
    bypassFile := text "BYPASS_FILE" "conf/bypass.conf"
    cacheFile := text "CACHE_FILE" "conf/cache.conf"
    debounce := number environment profile "RELOAD_DEBOUNCE_MS" (Nat.pow 2 64) 200
    basePath := normalizeBasePath (text "API_BASE_PATH" "/rulegate-api")
    primaryKey := (lookup environment profile "API_KEY_PRIMARY").map Text.trim
    secondaryKey := (lookup environment profile "API_KEY_SECONDARY").map Text.trim
    openAdmin := text "API_AUTH_DISABLE" "0" = "1" }

/-- The settings under the profile that the environment names. -/
def ofEnvironment (environment : Environment) : Settings :=
  forProfile environment (Unicode.toCapitals ((environment.text? "RULEGATE_PROFILE").getD ""))

def label (settings : Settings) : String :=
  if settings.profile = "" then "default" else settings.profile

/-- Why the server cannot start with the settings, if it cannot. -/
def defect? (settings : Settings) : Option String :=
  if settings.basePath = "/" then some "API_BASE_PATH cannot be the root path '/'" else none

/-- The keys that open the admin API; an empty one opens nothing. -/
def keys (settings : Settings) : List String :=
  (settings.primaryKey.toList ++ settings.secondaryKey.toList).filter fun key => key ≠ ""

/-- A presented key opens the admin API. -/
def acceptsKey (settings : Settings) (presented : String) : Bool :=
  let key := Text.trim presented
  key ≠ "" && settings.keys.contains key

/-- The lines that describe the settings in logs; keys are not shown. -/
def summary (settings : Settings) : List String :=
  ["Config loaded (profile: " ++ settings.label ++ "):",
    "  server:      " ++ settings.host ++ ":" ++ toString settings.port,
    "  upstream:    url=" ++ settings.backendUrl.getD "(none)",
    "  bypass:      file=" ++ settings.bypassFile,
    "  cache:       file=" ++ settings.cacheFile,
    "  reload:      debounce=" ++ toString settings.debounce ++ "ms",
    "  admin:       base_path=" ++ settings.basePath ++ ", auth=" ++
      (if settings.openAdmin then "disabled" else "api-key")]

end Settings

end Gatehouse
