import Gatehouse.Text.Pieces

/-!
# Endpoints of the admin API

The paths under the base path and the methods they know.  Where `GET` is known
`HEAD` is too.
-/

namespace Gatehouse.Admin

/-- What a path of the admin API is for. -/
inductive Endpoint where
  | bypassRules
  | bypassCheck
  | cacheRules
  | cacheCheck
  | status
  deriving DecidableEq, Repr

/-- What a request asks of an endpoint. -/
inductive Action where
  | readBypass
  | writeBypass
  | checkBypass
  | readCache
  | writeCache
  | checkCache
  | readStatus
  deriving DecidableEq, Repr

namespace Endpoint

def all : List Endpoint :=
  [.bypassRules, .bypassCheck, .cacheRules, .cacheCheck, .status]

/-- The path behind the base path. -/
def path : Endpoint → String
  | .bypassRules => "/bypass-rules"
  | .bypassCheck => "/bypass-rules:validate"
  | .cacheRules => "/cache-rules"
  | .cacheCheck => "/cache-rules:validate"
  | .status => "/status"

/-- What a method asks of an endpoint, if the endpoint knows it. -/
def action? (endpoint : Endpoint) (method : String) : Option Action :=
  let reads : Bool := method = "GET" || method = "HEAD"
  match endpoint with
  | .bypassRules =>
      if reads then some .readBypass else if method = "PUT" then some .writeBypass else none
  | .bypassCheck => if method = "POST" then some .checkBypass else none
  | .cacheRules =>
      if reads then some .readCache else if method = "PUT" then some .writeCache else none
  | .cacheCheck => if method = "POST" then some .checkCache else none
  | .status => if reads then some .readStatus else none

/-- The methods that an endpoint knows, as a header shows them. -/
def allowed : Endpoint → String
  | .bypassRules | .cacheRules => "GET,HEAD,PUT"
  | .bypassCheck | .cacheCheck => "POST"
  | .status => "GET,HEAD"

end Endpoint

end Gatehouse.Admin
