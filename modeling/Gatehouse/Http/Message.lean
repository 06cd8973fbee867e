import Gatehouse.Http.Headers
import Gatehouse.Http.Target
import Gatehouse.Json.Basic

/-!
# Requests and responses
-/

namespace Gatehouse.Http

/-- A request. -/
structure Request where
  method : String
  target : Target
  headers : Headers
  body : ByteArray

/-- A response. -/
structure Response where
  status : Nat
  headers : Headers
  body : ByteArray

namespace Response

/-- The media type of texts. -/
def textType : String :=
  "text/plain; charset=utf-8"

/-- The media type of JSON values. -/
def jsonType : String :=
  "application/json"

def bare (status : Nat) : Response :=
  ⟨status, .empty, .empty⟩

def text (status : Nat) (content : String) : Response :=
  ⟨status, Headers.empty.set "content-type" textType, Text.encode content⟩

def json (status : Nat) (content : Json) : Response :=
  ⟨status, Headers.empty.set "content-type" jsonType, Text.encode content.render⟩

def setHeader (response : Response) (name value : String) : Response :=
  { response with headers := response.headers.set name value }

/-- The status tells a failure of the server. -/
def isServerError (response : Response) : Bool :=
  500 ≤ response.status && response.status < 600

/-- The status tells success. -/
def isSuccess (response : Response) : Bool :=
  200 ≤ response.status && response.status < 300

/-- The response as it is sent to a method: `HEAD` is sent no body, and neither is a
successful `CONNECT`. -/
def sentTo (response : Response) (method : String) : Response :=
  if method = "HEAD" ∨ (method = "CONNECT" ∧ response.isSuccess) then
    { response with body := .empty }
  else response

end Response

end Gatehouse.Http
