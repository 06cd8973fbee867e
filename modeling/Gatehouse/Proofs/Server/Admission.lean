import Gatehouse.Server.Serve

/-!
# Who is let in, and what all others leave alone

The admin API is open to everybody if the environment says so, and otherwise to whoever presents
one of the two keys that the environment gives; blanks around a key do not count, neither in the
environment nor in the header, and a blank key opens nothing.

Whoever is not let in is told so and changes nothing.  Of those who are let in, only who replaces a
policy changes anything: reading and checking leave the server and the disk as they are, and so
does everything that goes through the gate.
-/

namespace Gatehouse

open Disk (Volume)
open Http (Headers Request Response)

namespace Settings

variable {environment : Environment} {profile key : String}

/-- The environment gives the key, with or without blanks around it. -/
def GivesKey (environment : Environment) (profile key : String) : Prop :=
  ∃ name ∈ ["API_KEY_PRIMARY", "API_KEY_SECONDARY"], ∃ value,
    lookup environment (Unicode.toCapitals profile) name = some value ∧ Text.trim value = key

/-- The environment lets a request with these headers in. -/
def LetsIn (environment : Environment) (profile : String) (headers : Headers) : Prop :=
  lookup environment (Unicode.toCapitals profile) "API_AUTH_DISABLE" = some "1" ∨
    ∃ text, headers.text? "x-api-key" = some text ∧ Text.trim text ≠ "" ∧
      GivesKey environment profile (Text.trim text)

theorem openAdmin_forProfile :
    (forProfile environment profile).openAdmin ↔
      lookup environment (Unicode.toCapitals profile) "API_AUTH_DISABLE" = some "1" := by
  simp only [forProfile, decide_eq_true_eq]
  cases lookup environment (Unicode.toCapitals profile) "API_AUTH_DISABLE" with
  | none => decide
  | some value => simp

theorem mem_keys_forProfile :
    key ∈ (forProfile environment profile).keys ↔ key ≠ "" ∧ GivesKey environment profile key := by
  have given : key ∈ (forProfile environment profile).primaryKey.toList ++
      (forProfile environment profile).secondaryKey.toList ↔
        GivesKey environment profile key := by
    simp [forProfile, GivesKey]
  rw [keys, List.mem_filter, given, decide_eq_true_eq, and_comm]

theorem acceptsKey_forProfile :
    (forProfile environment profile).acceptsKey key ↔
      Text.trim key ≠ "" ∧ GivesKey environment profile (Text.trim key) := by
  simp only [acceptsKey, Bool.and_eq_true, decide_eq_true_eq, List.contains_iff_mem,
    mem_keys_forProfile]
  exact ⟨fun opens => opens.2, fun given => ⟨given.1, given⟩⟩

end Settings

namespace Admin

variable {environment : Environment} {profile method : String} {headers : Headers}
  {endpoint : Endpoint} {action : Action}

theorem denial?_eq_none_iff {settings : Settings} :
    denial? settings headers = none ↔
      settings.openAdmin ∨ settings.acceptsKey (presentedKey headers) := by
  unfold denial?
  split
  case isTrue opens => simp [opens]
  case isFalse guarded =>
    split
    case isTrue empty =>
      -- Without keys none is accepted, so the two reasons to refuse come to the same.
      have none : settings.keys = [] := List.isEmpty_iff.mp empty
      simp [guarded, Settings.acceptsKey, none]
    case isFalse => simp [guarded]

theorem letsIn_iff :
    denial? (Settings.forProfile environment profile) headers = none ↔
      Settings.LetsIn environment profile headers := by
  rw [denial?_eq_none_iff, Settings.openAdmin_forProfile, Settings.acceptsKey_forProfile,
    Settings.LetsIn, presentedKey, keyHeader]
  cases headers.text? "x-api-key" with
  | none =>
      have blank : Text.trim "" = "" := by decide +kernel
      simp [blank]
  | some text => simp

theorem Endpoint.method_of_writes (asks : endpoint.action? method = some action)
    (writes : action = .writeBypass ∨ action = .writeCache) :
    method = "PUT" ∧ (endpoint = .bypassRules ∨ endpoint = .cacheRules) := by
  cases endpoint <;> simp only [action?] at asks <;> grind

end Admin

namespace Http.Response

@[simp]
theorem status_json (status : Nat) (content : Json) : (json status content).status = status := rfl

@[simp]
theorem status_text (status : Nat) (content : String) : (text status content).status = status := rfl

@[simp]
theorem status_setHeader (response : Response) (name value : String) :
    (response.setHeader name value).status = response.status := rfl

@[simp]
theorem status_sentTo (response : Response) (method : String) :
    (response.sentTo method).status = response.status := by
  unfold sentTo
  split <;> rfl

end Http.Response

namespace Admin

theorem status_rejected_mem (fault : BodyFault) :
    (rejected fault).status ∈ [400, 413, 415, 422] := by
  cases fault <;> decide

theorem status_checked (report : Report) :
    (checked report).status = if report.isOk then 200 else 422 := rfl

theorem status_checked_mem (report : Report) : (checked report).status ∈ [200, 422] := by
  rw [status_checked]
  split <;> decide

theorem status_written_mem (result : Except PolicyError CommitOutcome) :
    (written result).status ∈ [200, 409, 422, 500] := by
  unfold written
  split
  case h_3 report =>
    have checks := status_checked_mem report
    simp only [List.mem_cons, List.not_mem_nil, or_false] at checks ⊢
    omega
  all_goals simp

end Admin

variable [PatternEngine]

namespace Server

variable {environment : Environment} {profile : String} {server : Server} {volume : Volume}
  {surroundings : Surroundings} {request : Request} {endpoint : Admin.Endpoint}
  {action : Admin.Action}

theorem status_act_ne (server : Server) (volume : Volume) (time : Disk.Timestamp)
    (action : Admin.Action) (request : Request) :
    (server.act volume time action request).response.status ≠ 401 := by
  cases action with
  | readStatus => simp [act]
  | readBypass =>
      simp only [act, Admin.bypassRules]
      split <;> simp [Admin.unreadable]
  | readCache =>
      simp only [act, Admin.cacheRules]
      split <;> simp [Admin.unreadable]
  | checkBypass | checkCache =>
      simp only [act, withBody]
      split
      case h_1 fault _ => exact ne_of_mem_of_not_mem (Admin.status_rejected_mem fault) (by decide)
      case h_2 => exact ne_of_mem_of_not_mem (Admin.status_checked_mem _) (by decide)
  | writeBypass | writeCache =>
      simp only [act, withBody]
      split
      case h_1 fault _ => exact ne_of_mem_of_not_mem (Admin.status_rejected_mem fault) (by decide)
      case h_2 => exact ne_of_mem_of_not_mem (Admin.status_written_mem _) (by decide)

theorem act_unchanged (server : Server) (volume : Volume) (time : Disk.Timestamp)
    (request : Request) (harmless : ¬(action = .writeBypass ∨ action = .writeCache)) :
    (server.act volume time action request).server = server ∧
      (server.act volume time action request).volume = volume := by
  cases action with
  | readStatus | readBypass | readCache => exact ⟨rfl, rfl⟩
  | checkBypass | checkCache =>
      simp only [act, withBody]
      split <;> exact ⟨rfl, rfl⟩
  | writeBypass => exact absurd (.inl rfl) harmless
  | writeCache => exact absurd (.inr rfl) harmless

theorem serve_of_action (leads : server.endpoint? request = some endpoint)
    (asks : endpoint.action? request.method = some action) :
    server.serve volume surroundings request =
      let served : Served := match Admin.denial? server.settings request.headers with
        | some denial => ⟨Admin.denied denial, server, volume, none⟩
        | none => server.act volume surroundings.time action request
      { served with response := served.response.sentTo request.method } := by
  simp only [serve, leads, administer, asks, Option.isSome_some, if_true]
  cases Admin.denial? server.settings request.headers <;> rfl

/-- The request is let in and replaces a policy. -/
structure IsAdmittedWrite (server : Server) (environment : Environment) (profile : String)
    (request : Request) : Prop where
  method : request.method = "PUT"
  leads : server.endpoint? request = some .bypassRules ∨
    server.endpoint? request = some .cacheRules
  letsIn : Settings.LetsIn environment profile request.headers

theorem serve_unchanged (built : server.settings = Settings.forProfile environment profile)
    (harmless : ¬server.IsAdmittedWrite environment profile request) :
    (server.serve volume surroundings request).server = server ∧
      (server.serve volume surroundings request).volume = volume := by
  cases leads : server.endpoint? request with
  | none => simp [serve, leads, proxy]
  | some endpoint =>
      cases asks : endpoint.action? request.method with
      | none =>
          simp only [serve, leads, administer, asks]
          cases Admin.denial? server.settings request.headers <;> simp
      | some action =>
          rw [serve_of_action leads asks]
          cases judged : Admin.denial? server.settings request.headers with
          | some denial => exact ⟨rfl, rfl⟩
          | none =>
              apply act_unchanged
              intro writes
              apply harmless
              rcases Admin.Endpoint.method_of_writes asks writes with ⟨method, place⟩
              refine ⟨method, ?_, ?_⟩
              · simpa [leads] using place
              · rw [built] at judged
                exact Admin.letsIn_iff.mp judged

/-- The server and the disk after a list of requests, each with what surrounds it. -/
def serveAll (server : Server) (volume : Volume) : List (Surroundings × Request) → Server × Volume
  | [] => (server, volume)
  | (surroundings, request) :: rest =>
      let served := server.serve volume surroundings request
      served.server.serveAll served.volume rest

theorem serveAll_unchanged (built : server.settings = Settings.forProfile environment profile)
    {turns : List (Surroundings × Request)}
    (harmless : ∀ turn ∈ turns, ¬server.IsAdmittedWrite environment profile turn.2) :
    server.serveAll volume turns = (server, volume) := by
  induction turns with
  | nil => rfl
  | cons turn rest ih =>
      rcases List.forall_mem_cons.mp harmless with ⟨first, others⟩
      have stays : (server.serve volume turn.1 turn.2).server = server ∧
          (server.serve volume turn.1 turn.2).volume = volume :=
        serve_unchanged built first
      rw [serveAll, stays.1, stays.2]
      exact ih others

/-- What is promised of a server whose settings come from an environment. -/
structure IsGatedByKey (server : Server) (environment : Environment) (profile : String) :
    Prop where
  /-- A request that the environment lets in is answered by what it asks for. -/
  answered {volume : Volume} {surroundings : Surroundings} {request : Request}
    {endpoint : Admin.Endpoint} {action : Admin.Action}
    (leads : server.endpoint? request = some endpoint)
    (asks : endpoint.action? request.method = some action)
    (letsIn : Settings.LetsIn environment profile request.headers) :
    let acted := server.act volume surroundings.time action request
    server.serve volume surroundings request =
        { acted with response := acted.response.sentTo request.method } ∧
      (server.serve volume surroundings request).response.status ≠ 401
  /-- Any other request is told so. -/
  refused {volume : Volume} {surroundings : Surroundings} {request : Request}
    {endpoint : Admin.Endpoint} {action : Admin.Action}
    (leads : server.endpoint? request = some endpoint)
    (asks : endpoint.action? request.method = some action)
    (shutOut : ¬Settings.LetsIn environment profile request.headers) :
    ∃ denial, server.serve volume surroundings request =
        ⟨(Admin.denied denial).sentTo request.method, server, volume, none⟩ ∧
      (server.serve volume surroundings request).response.status = 401
  /-- Without an admitted write everything stays: the policies with their rules and counters, and
  the disk with their files. -/
  unchanged {volume : Volume} {turns : List (Surroundings × Request)}
    (harmless : ∀ turn ∈ turns, ¬server.IsAdmittedWrite environment profile turn.2) :
    server.serveAll volume turns = (server, volume)

/-- Whatever the environment and the state of the policies, the keys of the environment decide who
is let in, and only an admitted write changes a policy or its file. -/
theorem only_admitted_writes_change_policies (environment : Environment) (profile : String)
    (bypass : PolicyFile BypassEntry) (cache : PolicyFile CacheRule) (backend : Option Backend) :
    IsGatedByKey ⟨Settings.forProfile environment profile, bypass, cache, backend⟩ environment
      profile where
  answered := by
    intro volume surroundings request endpoint action leads asks letsIn
    have admitted := Admin.letsIn_iff.mpr letsIn
    rw [serve_of_action leads asks, admitted]
    refine ⟨rfl, ?_⟩
    rw [Response.status_sentTo]
    exact status_act_ne _ volume surroundings.time action request
  refused := by
    intro volume surroundings request endpoint action leads asks shutOut
    rw [serve_of_action leads asks]
    cases judged : Admin.denial? (Settings.forProfile environment profile) request.headers with
    | none => exact absurd (Admin.letsIn_iff.mp judged) shutOut
    | some denial => exact ⟨denial, rfl, Response.status_sentTo _ _⟩
  unchanged harmless := serveAll_unchanged rfl harmless

end Server

end Gatehouse
