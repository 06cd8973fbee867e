import Gatehouse.Http.Message
import Gatehouse.Http.Url

/-!
# The application behind the gate

A request that passes the gate is sent on to the application at a base URL.
Headers that concern one connection stay behind, in both directions, and so
does the length of a body, which is told anew.  The application is a parameter:
a function that answers a request or does not.

Whatever goes wrong on the way is answered 502.  Nothing is asked if the body is
too long, or if the client does not take for a URL what is written for one.

`forwardBy` sends a request on with any way of asking.  So what is asked can be
told from the same definition that answers.
-/

namespace Gatehouse

open Http (Headers Request Response Url)

/-- A request as it is sent to the application. -/
structure Outbound where
  method : String
  url : Url
  headers : Headers
  body : ByteArray

/-- The application: what it answers to a request, if it answers. -/
abbrev Exchange := Outbound → Option Response

/-- Where the application is. -/
structure Backend where
  /-- The URL in front of every path, without slashes at its end. -/
  base : String
  /-- Which texts the client takes for hosts. -/
  isHost : List Char → Bool := Url.isPlainHost

namespace Backend

def ofUrl (url : String) : Backend where
  base := Text.dropEnding '/' url

/-- The headers that concern one connection or one message. -/
def connectionHeaders : List String :=
  ["connection", "host", "proxy-authorization", "te", "trailer", "transfer-encoding", "upgrade",
    "content-length"]

/-- The headers that cross the gate. -/
def carried (headers : Headers) : Headers :=
  headers.removeAll connectionHeaders

/-- The greatest number of bytes of a body that is sent on. -/
def bodyLimit : Nat := 10 * 1024 * 1024

/-- The request that is sent on, if the client takes what is written for a URL. -/
def outbound? (backend : Backend) (request : Request) : Option Outbound :=
  (Url.parse? backend.isHost (backend.base ++ request.target.pathAndQuery)).map fun url =>
    ⟨request.method, url, carried request.headers, request.body⟩

/-- The response that is sent back. -/
def inbound (response : Response) : Response :=
  { response with headers := carried response.headers }

/-- The answer where no application answers. -/
def badGateway : Response :=
  .text 502 "bad gateway"

/-- The answer where there is no application. -/
def unconfigured : Response :=
  .text 502 "no upstream configured"

/-- Sends a request on and takes its answer in; `ask` asks the application. -/
def forwardBy {m : Type → Type} [Monad m] (backend : Backend)
    (ask : Outbound → m (Option Response)) (request : Request) : m Response :=
  if request.body.size > bodyLimit then pure badGateway
  else
    match backend.outbound? request with
    | none => pure badGateway
    | some outbound => do
        let answered ← ask outbound
        return (answered.map inbound).getD badGateway

def forward (backend : Backend) (exchange : Exchange) (request : Request) : Response :=
  Id.run (backend.forwardBy (fun outbound => pure (exchange outbound)) request)

/-- What the application is asked, in order, while a request is sent on. -/
def asked (backend : Backend) (exchange : Exchange) (request : Request) : List Outbound :=
  let ask (outbound : Outbound) : StateM (List Outbound) (Option Response) := do
    modify (· ++ [outbound])
    return exchange outbound
  (Id.run ((backend.forwardBy ask request).run [])).2

/-- The answer to a request that has passed the gate. -/
def answer (backend : Option Backend) (exchange : Exchange) (request : Request) : Response :=
  match backend with
  | some backend => backend.forward exchange request
  | none => unconfigured

end Backend

end Gatehouse
