import Gatehouse.Admin.Answer
import Gatehouse.Admin.BasePath
import Gatehouse.Gate.Passage
import Gatehouse.Server.Startup

/-!
# Serving requests

A request to an endpoint of the admin API is answered there, if it is admitted:
being admitted comes before everything else, also before the method is looked
at.  Every other request goes through the gate and on to the application.

Serving is a function of the server, the disk and what is outside of them (the
clock, a fresh name, the engine and the application).  It answers the response
with the server and the disk after it, and the passage of a request that went
to the gate.
-/

namespace Gatehouse

open Disk (Timestamp Volume)
open Http (Request Response)

/-- What serving depends on besides the server and the disk. -/
structure Surroundings where
  /-- The reading of the clock. -/
  time : Timestamp
  /-- A name for a request that has none. -/
  freshId : String
  inspector : Inspector
  exchange : Exchange

variable [PatternEngine]

/-- What became of a request. -/
structure Served where
  response : Response
  server : Server
  volume : Volume
  /-- The passage, if the request went to the gate. -/
  passage : Option Passage := none

namespace Server

def statusJson (server : Server) : Json :=
  .object [("status", .text "running"), ("api_base", .text server.settings.basePath),
    ("upstream", Json.optional (fun backend => .text backend.base) server.backend),
    ("bypass", Admin.policyStatus server.bypass), ("cache", Admin.policyStatus server.cache)]

/-- The fingerprint that a writer asks the file to have, if it asks. -/
def condition (request : Request) : Option String :=
  request.headers.text? "if-match"

/-- Answers from a body, or refuses it. -/
def withBody {Body : Type} (read : JsonDraft → Except JsonFault Body) (server : Server)
    (volume : Volume) (request : Request) (answer : Body → Served) : Served :=
  match Admin.readBody read request.headers request.body with
  | .error fault => ⟨Admin.rejected fault, server, volume, none⟩
  | .ok body => answer body

/-- The defects of the text or of the rules of a body. -/
def checkCache (server : Server) (body : Admin.CacheBody) : Report :=
  if body.rawMode then server.cache.validate body.raw
  else
    match RuleDraft.build body.rules with
    | .ok _ => .clean
    | .error report => report

/-- Replaces the cache policy by the text or the rules of a body. -/
def writeCache (server : Server) (volume : Volume) (time : Timestamp) (body : Admin.CacheBody)
    (condition : Option String) :
    Except PolicyError CommitOutcome × PolicyFile CacheRule × Volume :=
  if body.rawMode then server.cache.commit volume time body.raw condition
  else server.cache.commitDrafts volume time body.rules condition

/-- Answers an admitted request. -/
def act (server : Server) (volume : Volume) (time : Timestamp) (action : Admin.Action)
    (request : Request) : Served :=
  match action with
  | .readStatus => ⟨.json 200 server.statusJson, server, volume, none⟩
  | .readBypass => ⟨Admin.bypassRules (server.bypass.readRaw volume), server, volume, none⟩
  | .readCache =>
      ⟨Admin.cacheRules server.cache (server.cache.readRaw volume), server, volume, none⟩
  | .checkBypass =>
      withBody Admin.BypassBody.ofJson server volume request fun body =>
        ⟨Admin.checked (server.bypass.validate body.raw), server, volume, none⟩
  | .checkCache =>
      withBody Admin.CacheBody.ofJson server volume request fun body =>
        ⟨Admin.checked (server.checkCache body), server, volume, none⟩
  | .writeBypass =>
      withBody Admin.BypassBody.ofJson server volume request fun body =>
        let (result, policy, replaced) :=
          server.bypass.commit volume time body.raw (condition request)
        ⟨Admin.written result, { server with bypass := policy }, replaced, none⟩
  | .writeCache =>
      withBody Admin.CacheBody.ofJson server volume request fun body =>
        let (result, policy, replaced) :=
          server.writeCache volume time body (condition request)
        ⟨Admin.written result, { server with cache := policy }, replaced, none⟩

def administer (server : Server) (volume : Volume) (time : Timestamp)
    (endpoint : Admin.Endpoint) (request : Request) : Served :=
  let action := endpoint.action? request.method
  let served : Served :=
    match Admin.denial? server.settings request.headers, action with
    | some denial, _ => ⟨Admin.denied denial, server, volume, none⟩
    | none, some action => server.act volume time action request
    | none, none => ⟨Admin.wrongMethod, server, volume, none⟩
  if action.isSome then served
  else { served with response := served.response.setHeader "allow" endpoint.allowed }

/-- The gate with the policies in force. -/
def gate (server : Server) (inspector : Inspector) : Gate :=
  ⟨server.bypass.published, server.cache.published, inspector⟩

/-- Takes a request through the gate to the application. -/
def proxy (server : Server) (volume : Volume) (surroundings : Surroundings) (request : Request) :
    Served :=
  let passage := (server.gate surroundings.inspector).pass surroundings.freshId
    (Backend.answer server.backend surroundings.exchange) request
  ⟨passage.response, server, volume, some passage⟩

/-- The endpoint that a request is for, if it is for one. -/
def endpoint? (server : Server) (request : Request) : Option Admin.Endpoint :=
  Admin.BasePath.endpoint? server.settings.basePath request.target.path

def serve (server : Server) (volume : Volume) (surroundings : Surroundings) (request : Request) :
    Served :=
  let served := match server.endpoint? request with
    | some endpoint => server.administer volume surroundings.time endpoint request
    | none => server.proxy volume surroundings request
  { served with response := served.response.sentTo request.method }

end Server

end Gatehouse
