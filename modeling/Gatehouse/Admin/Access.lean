import Gatehouse.Http.Headers
import Gatehouse.Settings.Basic

/-!
# Access to the admin API

A request to the admin API presents a key in a header.  It is admitted if the
settings ask for no key, or if the trimmed text of the header is one of the
keys of the settings.  Where the settings hold no key nobody is admitted.
-/

namespace Gatehouse.Admin

open Http (Headers)

/-- The header that presents a key. -/
def keyHeader : String :=
  "x-api-key"

/-- Why a request is not admitted. -/
inductive Denial where
  | noKeys
  | wrongKey
  deriving DecidableEq, Repr

def Denial.message : Denial → String
  | .noKeys => "admin API keys are not configured"
  | .wrongKey => "unauthorized"

/-- The key that a request presents; nothing where there is no readable one. -/
def presentedKey (headers : Headers) : String :=
  (headers.text? keyHeader).getD ""

/-- Why a request with these headers is not admitted, if it is not. -/
def denial? (settings : Settings) (headers : Headers) : Option Denial :=
  if settings.openAdmin then none
  else if settings.keys.isEmpty then some .noKeys
  else if settings.acceptsKey (presentedKey headers) then none
  else some .wrongKey

def admits (settings : Settings) (headers : Headers) : Bool :=
  (denial? settings headers).isNone

end Gatehouse.Admin
