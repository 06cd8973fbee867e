import Gatehouse.Backend
import Gatehouse.Proofs.Http.HeaderText

/-!
# Headers that cross the gate

The gate is the end of two connections, so headers that concern one of them are not for
the other.  Eight names are taken away, on the way to the application and on the way
back, and every other header crosses with all its values, in their order.

The names are fixed.  A section may say itself what concerns its connection: the values
of `Connection` list further names.  These are not looked at, and neither is a header for
keeping a connection alive among the eight, so both cross.
-/

namespace Gatehouse.Backend

open Http (Headers HeaderValue Request Response)

variable {headers : Headers} {name : String} {backend : Backend} {exchange : Exchange}
  {request : Request} {outbound : Outbound} {response : Response}

/-- At most one question is asked: the one that the client makes of a request that is not too
long. -/
theorem asked_eq (backend : Backend) (exchange : Exchange) (request : Request) :
    backend.asked exchange request =
      if request.body.size > bodyLimit then [] else (backend.outbound? request).toList := by
  unfold asked forwardBy
  split
  case isTrue => rfl
  case isFalse => cases backend.outbound? request <;> rfl

theorem mem_asked_iff :
    outbound ∈ backend.asked exchange request ↔
      request.body.size ≤ bodyLimit ∧ backend.outbound? request = some outbound := by
  rw [asked_eq]
  split
  case isTrue long => simp [Nat.not_le.mpr long]
  case isFalse short => simp [Nat.not_lt.mp short]

/-- The answer to what is asked is what comes back. -/
theorem forward_of_asked (asks : outbound ∈ backend.asked exchange request)
    (answered : exchange outbound = some response) :
    backend.forward exchange request = inbound response := by
  rcases mem_asked_iff.mp asks with ⟨short, made⟩
  rw [forward, forwardBy, if_neg (Nat.not_lt.mpr short), made]
  change ((exchange outbound).map inbound).getD badGateway = inbound response
  rw [answered]
  rfl

/-- A readable value of `Connection` lists the name, in any case. -/
def IsListed (headers : Headers) (name : String) : Prop :=
  ∃ value ∈ headers.values "connection", ∃ text, HeaderValue.text? value = some text ∧
    ∃ entry ∈ Text.commaList text, Text.asciiLower entry = name

/-- The header concerns one connection, or the section says that it does. -/
inductive IsConnectionScoped (headers : Headers) : String → Prop
  | known {name : String}
      (known : name ∈ ["connection", "keep-alive", "proxy-connection", "proxy-authorization",
        "host", "te", "trailer", "transfer-encoding", "upgrade", "content-length"]) :
      IsConnectionScoped headers name
  | listed {name : String} (listed : IsListed headers name) : IsConnectionScoped headers name

/-- The header is taken away at the gate. -/
def IsStopped (name : String) : Prop :=
  name ∈ ["connection", "host", "proxy-authorization", "te", "trailer", "transfer-encoding",
    "upgrade", "content-length"]

/-- What is left of a header section behind the gate. -/
structure Crosses (before after : Headers) : Prop where
  stopped : ∀ name, IsStopped name → after.values name = []
  /-- Any other header keeps all its values in order, and one that is listed does too. -/
  carried : ∀ name, ¬IsStopped name → after.values name = before.values name
  /-- A section without further headers of its connection crosses without any. -/
  unscoped : (∀ name, IsConnectionScoped before name → ¬IsStopped name → before.values name = []) →
    ∀ name, IsConnectionScoped before name → after.values name = []

theorem values_carried_of_stopped (stopped : IsStopped name) :
    (carried headers).values name = [] := by
  have listed : connectionHeaders.contains name := List.contains_iff_mem.mpr stopped
  have removed := headers.values_removeAll connectionHeaders name
  rwa [if_pos listed] at removed

theorem values_carried_of_not_stopped (passes : ¬IsStopped name) :
    (carried headers).values name = headers.values name := by
  have unlisted : ¬connectionHeaders.contains name := passes ∘ List.contains_iff_mem.mp
  have removed := headers.values_removeAll connectionHeaders name
  rwa [if_neg unlisted] at removed

theorem crosses_carried (headers : Headers) : Crosses headers (carried headers) := by
  constructor
  case stopped =>
      intro name stopped
      exact values_carried_of_stopped stopped
  case carried =>
      intro name passes
      exact values_carried_of_not_stopped passes
  case unscoped =>
      intro absent name known
      by_cases stopped : IsStopped name
      · exact values_carried_of_stopped stopped
      · rw [values_carried_of_not_stopped stopped]
        exact absent name known stopped

/-- Which headers go out with a request, and which come back with the response to it. -/
structure CarriesHeaders (backend : Backend) (request : Request) : Prop where
  sent : ∀ exchange, ∀ outbound ∈ backend.asked exchange request,
    Crosses request.headers outbound.headers
  returned : ∀ exchange, ∀ outbound ∈ backend.asked exchange request, ∀ response,
    exchange outbound = some response →
      Crosses response.headers (backend.forward exchange request).headers

theorem forward_carriesHeaders (backend : Backend) (request : Request) :
    CarriesHeaders backend request := by
  constructor
  case sent =>
      intro exchange outbound asks
      rcases Option.map_eq_some_iff.mp (mem_asked_iff.mp asks).2 with ⟨url, -, rfl⟩
      exact crosses_carried request.headers
  case returned =>
      intro exchange outbound asks response answered
      rw [forward_of_asked asks answered]
      exact crosses_carried response.headers

/-- A header that is known to concern one connection crosses, and so does one that is listed. -/
theorem connection_scoped_crosses :
    (∀ name ∈ ["keep-alive", "proxy-connection", "x-hop"],
      IsConnectionScoped ⟨[("connection", HeaderValue.ofText "close, X-Hop"),
        ("keep-alive", HeaderValue.ofText "1"), ("proxy-connection", HeaderValue.ofText "1"),
        ("x-hop", HeaderValue.ofText "1")]⟩ name) ∧
    carried ⟨[("connection", HeaderValue.ofText "close, X-Hop"),
        ("keep-alive", HeaderValue.ofText "1"), ("proxy-connection", HeaderValue.ofText "1"),
        ("x-hop", HeaderValue.ofText "1")]⟩ =
      ⟨[("keep-alive", HeaderValue.ofText "1"), ("proxy-connection", HeaderValue.ofText "1"),
        ("x-hop", HeaderValue.ofText "1")]⟩ := by
  refine ⟨?_, by decide +kernel⟩
  simp only [List.forall_mem_cons]
  refine ⟨.known (by decide), .known (by decide), .listed ?_, nofun⟩
  have printable : Http.IsPrintable "close, X-Hop" := Http.printable_of_all (by decide)
  exact ⟨_, List.mem_singleton_self _, _, HeaderValue.text?_ofText printable, "X-Hop",
    by decide +kernel, by decide⟩

end Gatehouse.Backend
