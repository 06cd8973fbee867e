import Gatehouse.Bypass
import Gatehouse.Gate.Annotation

/-!
# The gate

Every proxied request goes through the gate.  The bypass policy says whether it
is inspected and by which rules; a verdict that blocks ends it there, and any
other request goes on to the handler behind the gate.  On the way back the
response is annotated.

`Gate.pass` answers a passage: the response together with the calls that were
made on the way, so that what was inspected and what went on can be told from
its result.
-/

namespace Gatehouse

open Http (Headers Request Response)

variable [PatternEngine]

/-- What the gate judges by. -/
structure Gate where
  /-- The bypass policy in force, if one is. -/
  bypass : Option (Ruleset BypassEntry)
  /-- The cache policy in force, if one is. -/
  cache : Option (Ruleset CacheRule)
  inspector : Inspector

/-- What became of a request at the gate. -/
structure Passage where
  response : Response
  /-- The inspections that were asked for, in order. -/
  inspections : List Inspection
  /-- The requests that went on, in order. -/
  passedOn : List Request

namespace Gate

/-- The name that a client gave its request, if it is a text with some character. -/
def givenId? (headers : Headers) : Option String :=
  (headers.text? HeaderName.requestId).filter fun id => id ≠ ""

/-- The name of a request: the given one, or else a new one. -/
def requestId (fresh : String) (request : Request) : String :=
  (givenId? request.headers).getD fresh

def named (fresh : String) (request : Request) : Request :=
  match givenId? request.headers with
  | some _ => request
  | none => { request with headers := request.headers.set HeaderName.requestId fresh }

/-- What the bypass policy asks for a request; without a policy nothing is passed by. -/
def action (gate : Gate) (request : Request) : BypassAction :=
  match gate.bypass with
  | some ruleset => ruleset.bypassAction request.target.path
  | none => .none

/-- The inspection of a named request by the default rules or a rule file. -/
def inspectionOf (id : String) (request : Request) (ruleFile : Option String) : Inspection :=
  ⟨id, request.method, request.target, request.headers, ruleFile⟩

/-- The inspection that the bypass policy leaves to be made, if any. -/
def inspection? (gate : Gate) (fresh : String) (request : Request) : Option Inspection :=
  let id := requestId fresh request
  match gate.action request with
  | .bypass => none
  | .rule file => some (inspectionOf id (named fresh request) (some file))
  | .none => some (inspectionOf id (named fresh request) none)

/-- The response to a blocked request. -/
def refusal (id : String) (verdict : Verdict) : Response :=
  let response := Response.text 403 "Forbidden"
  { response with
    headers := (annotateVerdict response.headers verdict).set HeaderName.requestId id }

/-- The path that cache rules are asked about. -/
def cachePath (request : Request) : String :=
  RequestPath.decoded request.target.path

/-- The response from behind the gate, with what the gate has to tell about it. -/
def annotated (gate : Gate) (id : String) (request : Request) (verdict : Option Verdict)
    (response : Response) : Response :=
  let headers := response.headers.set HeaderName.requestId id
  let headers := match verdict with
    | some verdict => annotateVerdict headers verdict
    | none => headers
  let headers :=
    if response.isServerError then headers
    else
      match gate.cache with
      | some ruleset => annotateCache headers ruleset request.method (cachePath request)
      | none => headers
  { response with headers := headers }

/-- Takes a request through the gate; `fresh` names it if its client did not. -/
def pass (gate : Gate) (fresh : String) (behind : Request → Response) (request : Request) :
    Passage :=
  let id := requestId fresh request
  let inspection := gate.inspection? fresh request
  let verdict := inspection.map gate.inspector
  match verdict.filter Verdict.blocked with
  | some verdict => ⟨refusal id verdict, inspection.toList, []⟩
  | none =>
      let named := named fresh request
      ⟨gate.annotated id request verdict (behind named), inspection.toList, [named]⟩

end Gate

end Gatehouse
