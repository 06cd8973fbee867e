import Gatehouse.Cache.Json
import Gatehouse.Http.Headers
import Gatehouse.Http.MediaType

/-!
# Bodies of the admin API

What a client sends to check or to replace a policy.  A body is JSON under a
content type that says so, within a size limit.  All its fields have defaults;
none may be null.

Of several faults the content type counts first, then the size, then the first
fault in the order of the text.
-/

namespace Gatehouse.Admin

open Http (Headers MediaType)

/-- Why a body is refused. -/
inductive BodyFault where
  | notJson
  | tooLong
  | malformed
  /-- A value is of the wrong type, missing or given twice. -/
  | mismatch
  deriving DecidableEq, Repr

namespace BodyFault

def status : BodyFault → Nat
  | .notJson => 415
  | .tooLong => 413
  | .malformed => 400
  | .mismatch => 422

def message : BodyFault → String
  | .notJson => "Expected request with Content-Type: application/json"
  | .tooLong => "Failed to buffer the request body: length limit exceeded"
  | .malformed => "Failed to parse the request body as JSON"
  | .mismatch => "Failed to deserialize the JSON body into the target type"

/-- The fault of a body whose text has a fault. -/
def ofJson : JsonFault → BodyFault
  | .malformed => .malformed
  | .mismatch => .mismatch

def all : List BodyFault :=
  [.notJson, .tooLong, .malformed, .mismatch]

end BodyFault

/-- The greatest number of bytes of a body. -/
def bodyLimit : Nat := 2 * 1024 * 1024

/-- The headers say that the body is JSON. -/
def declaresJson (headers : Headers) : Bool :=
  ((headers.text? "content-type").bind MediaType.parse?).any MediaType.isJson

/-- Reads a body with a reader of JSON values. -/
def readBody {α : Type} (read : JsonDraft → Except JsonFault α) (headers : Headers)
    (body : ByteArray) : Except BodyFault α :=
  if !declaresJson headers then .error .notJson
  else if body.size > bodyLimit then .error .tooLong
  else (JsonDraft.readDocument read body.data.toList).mapError BodyFault.ofJson

/-- The text of a bypass policy. -/
structure BypassBody where
  raw : String := ""
  deriving DecidableEq, Repr

/-- A cache policy: a text or rules in structured form. -/
structure CacheBody where
  /-- The text counts, not the rules. -/
  rawMode : Bool := false
  raw : String := ""
  rules : List RuleDraft := []

def BypassBody.ofJson (draft : JsonDraft) : Except JsonFault BypassBody :=
  draft.asRecord ["raw"] ({} : BypassBody) fun body _ value => do
    return { body with raw := ← value.asText }

def CacheBody.ofJson (draft : JsonDraft) : Except JsonFault CacheBody :=
  draft.asRecord ["rawMode", "raw", "rules"] ({} : CacheBody) fun body name value => do
    if name = "rawMode" then return { body with rawMode := ← value.asBool }
    else if name = "raw" then return { body with raw := ← value.asText }
    else return { body with rules := ← value.asList RuleDraft.ofJson }

end Gatehouse.Admin
