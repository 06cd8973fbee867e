import Gatehouse.Pattern.Engine
import Gatehouse.Proofs.Disk.Holding
import Gatehouse.Proofs.Http.HeaderText
import Gatehouse.Proofs.Policy.Updates
import Gatehouse.Server.Serve

/-!
# The precondition of a write

A client that replaces a policy may name the content that it means to replace, by
the fingerprint of its bytes in a header.  On the way from the header to the
comparison the value is read as text and trimmed, and a blank text asks for
nothing.

A value that can be read as text is heeded: the file stays, unless its bytes have
the fingerprint.  A value that cannot be read as text is dropped together with what
it asks for, and the request is served as if it had no such header.
-/

namespace Gatehouse

open Disk (Timestamp Volume)
open Http (HeaderValue Headers Request)

namespace Admin

theorem denial?_remove (settings : Settings) (headers : Headers) :
    denial? settings (headers.remove "if-match") = denial? settings headers := by
  rw [denial?, denial?, presentedKey, presentedKey, headers.text?_remove_of_ne (by decide)]

theorem readBody_congr {Body : Type} (read : JsonDraft → Except JsonFault Body)
    {headers other : Headers} (body : ByteArray)
    (same : headers.text? "content-type" = other.text? "content-type") :
    readBody read headers body = readBody read other body := by
  rw [readBody, readBody, declaresJson, declaresJson, same]

theorem readBody_remove {Body : Type} (read : JsonDraft → Except JsonFault Body)
    (headers : Headers) (body : ByteArray) :
    readBody read (headers.remove "if-match") body = readBody read headers body :=
  readBody_congr read body (headers.text?_remove_of_ne (by decide))

end Admin

namespace Server

/-- The value is the fingerprint of the bytes of the file. -/
def Names (value : HeaderValue) (policy : PolicyFile Rule) (volume : Volume) : Prop :=
  ∃ current, policy.bytes volume = .ok current ∧
    value.trimmed = HeaderValue.ofText (fingerprint current)

/-- The file stays as it is, unless the value is the fingerprint of its bytes. -/
def Guards (value : HeaderValue) (policy : PolicyFile Rule) (volume left : Volume) : Prop :=
  Names value policy volume ∨
    left.at? policy.path = volume.at? policy.path ∧ left.read policy.path = volume.read policy.path

variable {request : Request} {value : HeaderValue}

theorem condition_of_readable {text : String} (given : request.headers.get? "if-match" = some value)
    (read : value.text? = some text) : condition request = some text := by
  rw [condition, Headers.text?, given, Option.bind_some, read]

theorem condition_of_unreadable (given : request.headers.get? "if-match" = some value)
    (unreadable : ∃ byte ∈ value, ¬HeaderValue.isReadableByte byte) :
    condition request = none := by
  rcases unreadable with ⟨byte, byteMem, unreadable⟩
  rw [condition, Headers.text?, given, Option.bind_some]
  exact Option.eq_none_iff_forall_ne_some.mpr fun text read =>
    unreadable ((HeaderValue.text?_eq_some_iff.mp read).1 byte byteMem)

end Server

theorem meetsPrecondition_of_trim {current : ByteArray} {text : String}
    (same : Text.trim text = fingerprint current) : meetsPrecondition current (some text) := by
  rw [meetsPrecondition, requiredFingerprint, Option.map_some, same, Option.filter_some]
  split
  case isTrue => exact beq_self_eq_true _
  case isFalse => rfl

section

variable [PatternEngine]

/-- What is handed in by a body of a cache policy. -/
def Admin.CacheBody.submission (body : Admin.CacheBody) : Submission CacheRule :=
  if body.rawMode then .text body.raw else .drafts body.rules

namespace Server

/-- The request is admitted, its body is read, and it replaces a policy by what it hands in. -/
inductive Writes (server : Server) (request : Request) :
    {Rule : Type} → PolicyFile Rule → Submission Rule → Prop
  | bypass {body : Admin.BypassBody}
      (endpoint : server.endpoint? request = some .bypassRules) (method : request.method = "PUT")
      (admitted : Admin.denial? server.settings request.headers = none)
      (read : Admin.readBody Admin.BypassBody.ofJson request.headers request.body = .ok body) :
      Writes server request server.bypass (.text body.raw)
  | cache {body : Admin.CacheBody}
      (endpoint : server.endpoint? request = some .cacheRules) (method : request.method = "PUT")
      (admitted : Admin.denial? server.settings request.headers = none)
      (read : Admin.readBody Admin.CacheBody.ofJson request.headers request.body = .ok body) :
      Writes server request server.cache body.submission

variable {server : Server} {volume : Volume} {surroundings : Surroundings} {request : Request}
  {Rule : Type} {policy : PolicyFile Rule} {submission : Submission Rule} {value : HeaderValue}

theorem writeCache_eq_submit (server : Server) (volume : Volume) (time : Timestamp)
    (body : Admin.CacheBody) (condition : Option String) :
    server.writeCache volume time body condition =
      server.cache.submit volume time body.submission condition := by
  unfold writeCache Admin.CacheBody.submission
  cases body.rawMode <;> rfl

theorem Writes.volume_serve (writes : server.Writes request policy submission) (volume : Volume)
    (surroundings : Surroundings) :
    (server.serve volume surroundings request).volume =
      (policy.submit volume surroundings.time submission (condition request)).2.2 := by
  cases writes with
  | bypass endpoint method admitted read =>
      simp [serve, endpoint, administer, Admin.Endpoint.action?, method, admitted, act, withBody,
        read, PolicyFile.submit]
  | cache endpoint method admitted read =>
      simp [serve, endpoint, administer, Admin.Endpoint.action?, method, admitted, act, withBody,
        read, writeCache_eq_submit]

/-- Apart from the precondition, a write does not depend on whether the header is there. -/
theorem Writes.serve_remove (writes : server.Writes request policy submission)
    (same : policy.submit volume surroundings.time submission (condition request) =
      policy.submit volume surroundings.time submission none) :
    server.serve volume surroundings request = server.serve volume surroundings
      { request with headers := request.headers.remove "if-match" } := by
  have admittedToo := Admin.denial?_remove server.settings request.headers
  have asked : condition { request with headers := request.headers.remove "if-match" } = none :=
    request.headers.text?_remove_self "if-match"
  cases writes with
  | @bypass body endpoint method admitted read =>
      have leads : server.endpoint?
          { request with headers := request.headers.remove "if-match" } = some .bypassRules :=
        endpoint
      have action : Admin.Endpoint.action? .bypassRules request.method = some .writeBypass := by
        rw [method]
        rfl
      change server.bypass.commit _ _ _ _ = server.bypass.commit _ _ _ _ at same
      simp only [serve, endpoint, leads, administer, action, admitted, admittedToo, act, withBody,
        Admin.readBody_remove, read, asked, same]
  | @cache body endpoint method admitted read =>
      have leads : server.endpoint?
          { request with headers := request.headers.remove "if-match" } = some .cacheRules :=
        endpoint
      have written : server.writeCache volume surroundings.time body (condition request) =
          server.writeCache volume surroundings.time body none := by
        rw [writeCache_eq_submit, writeCache_eq_submit, same]
      have action : Admin.Endpoint.action? .cacheRules request.method = some .writeCache := by
        rw [method]
        rfl
      simp only [serve, endpoint, leads, administer, action, admitted, admittedToo, act, withBody,
        Admin.readBody_remove, read, asked, written]

end Server

namespace PolicyFile

variable {Rule : Type} {policy : PolicyFile Rule} {volume : Volume} {time : Timestamp}
  {submission : Submission Rule} {condition : Option String} {token : String}

/-- A commit that names a fingerprint leaves the volume as it is, unless the bytes of the file
have the fingerprint. -/
theorem submit_of_required (required : requiredFingerprint condition = some token) :
    (∃ current, policy.bytes volume = .ok current ∧ fingerprint current = token) ∨
      (policy.submit volume time submission condition).2.2 = volume := by
  rw [submit_eq]
  cases policy.textOf submission with
  | error report => exact .inr rfl
  | ok text =>
      dsimp only
      unfold commitBytes
      cases read : policy.bytes volume with
      | error error => exact .inr rfl
      | ok current =>
          dsimp only
          split
          case isTrue meets => exact .inl ⟨current, rfl, (meetsPrecondition_iff required).mp meets⟩
          case isFalse => exact .inr rfl

/-- A commit whose precondition the file meets is a commit without one. -/
theorem submit_of_meets {current : ByteArray} (read : policy.bytes volume = .ok current)
    (meets : meetsPrecondition current condition) :
    policy.submit volume time submission condition =
      policy.submit volume time submission none := by
  have unasked : meetsPrecondition current none := rfl
  rw [submit_eq, submit_eq]
  cases policy.textOf submission with
  | error report => rfl
  | ok text => simp only [commitBytes, read, if_pos meets, if_pos unasked]

end PolicyFile

namespace Server

variable {server : Server} {volume : Volume} {surroundings : Surroundings} {request : Request}
  {Rule : Type} {policy : PolicyFile Rule} {submission : Submission Rule} {value : HeaderValue}

/-- How a write treats a value of the precondition header. -/
structure Heeds (server : Server) (volume : Volume) (surroundings : Surroundings)
    (request : Request) (policy : PolicyFile Rule) (value : HeaderValue) : Prop where
  /-- A readable value that is not blank guards the file. -/
  readable : (∀ byte ∈ value, HeaderValue.isReadableByte byte) → value.trimmed ≠ [] →
    Guards value policy volume (server.serve volume surroundings request).volume
  /-- The fingerprint of the file lets the write through. -/
  named : Names value policy volume →
    server.serve volume surroundings request = server.serve volume surroundings
      { request with headers := request.headers.remove "if-match" }
  /-- An unreadable value is not there. -/
  unreadable : (∃ byte ∈ value, ¬HeaderValue.isReadableByte byte) →
    server.serve volume surroundings request = server.serve volume surroundings
      { request with headers := request.headers.remove "if-match" }

theorem serve_heeds (writes : server.Writes request policy submission)
    (given : request.headers.get? "if-match" = some value) :
    server.Heeds volume surroundings request policy value := by
  have unread : (∃ byte ∈ value, ¬HeaderValue.isReadableByte byte) →
      server.serve volume surroundings request = server.serve volume surroundings
        { request with headers := request.headers.remove "if-match" } := by
    intro unreadable
    exact writes.serve_remove (by rw [condition_of_unreadable given unreadable])
  constructor
  case readable =>
      intro readable marked
      rcases HeaderValue.exists_text? readable with ⟨text, read, trimmed⟩
      have nonempty : Text.trim text ≠ "" := by
        intro blank
        rw [blank] at trimmed
        exact marked trimmed.symm
      have required : requiredFingerprint (condition request) = some (Text.trim text) := by
        rw [condition_of_readable given read, requiredFingerprint, Option.map_some,
          Option.filter_some, if_pos (decide_eq_true nonempty)]
      rw [Guards, writes.volume_serve]
      rcases PolicyFile.submit_of_required required with ⟨current, read, matching⟩ | stays
      · exact .inl ⟨current, read, by rw [matching, trimmed]⟩
      · rw [stays]
        exact .inr ⟨rfl, rfl⟩
  case named =>
      rintro ⟨current, stands, same⟩
      by_cases readable : ∀ byte ∈ value, HeaderValue.isReadableByte byte
      case neg => exact unread (by simpa using readable)
      case pos =>
        rcases HeaderValue.exists_text? readable with ⟨text, read, trimmed⟩
        have matching : Text.trim text = fingerprint current :=
          HeaderValue.ofText_injective (trimmed.trans same)
        have meets : meetsPrecondition current (condition request) := by
          rw [condition_of_readable given read]
          exact meetsPrecondition_of_trim matching
        exact writes.serve_remove (PolicyFile.submit_of_meets stands meets)
  case unreadable => exact unread

end Server

end

namespace Disk.Volume

theorem replaceWithBackup_ofBypass (old new : ByteArray) :
    ∃ left, (ofBypass old).replaceWithBackup "bypass.conf" new default = (.ok (), left) := by
  have target := @copyTarget?_default (ofBypass old) rfl (.inl rfl)
  exact ⟨_, (holdsFile_ofBypass old).replaceWithBackup_eq rfl new target (by decide +kernel)
    (by decide)⟩

end Disk.Volume

namespace Server

/-- A server without keys, with nothing loaded. -/
def keyless : Server where
  settings := {
    profile := "", host := "127.0.0.1", port := 9090, backendUrl := none, backendTimeout := 30
    bypassFile := "bypass.conf", cacheFile := "cache.conf", debounce := 200
    basePath := "/rulegate-api", primaryKey := none, secondaryKey := none, openAdmin := true }
  bypass := .new bypassGrammar "bypass.conf"
  cache := .new cacheGrammar "cache.conf"
  backend := none

/-- A request to replace the bypass policy, with a precondition. -/
def putBypass (value : HeaderValue) : Request where
  method := "PUT"
  target := ⟨"", "/rulegate-api/bypass-rules", none⟩
  headers := ⟨[("if-match", value), ("content-type", HeaderValue.ofText "application/json")]⟩
  body := Text.encode "\x7b\"raw\":\"/q\"\x7d"

theorem writes_putBypass (value : HeaderValue) :
    keyless.Writes (putBypass value) keyless.bypass (.text "/q") := by
  have endpoint : Admin.BasePath.endpoint? "/rulegate-api" "/rulegate-api/bypass-rules" =
      some .bypassRules := by decide +kernel
  have declared : Admin.declaresJson (putBypass value).headers := by
    have printable : Http.IsPrintable "application/json" := Http.printable_of_all (by decide)
    have type : (putBypass value).headers.text? "content-type" = some "application/json" :=
      Headers.text?_of_values printable rfl
    rw [Admin.declaresJson, type, Option.bind_some]
    decide +kernel
  have short : ¬(Text.encode "\x7b\"raw\":\"/q\"\x7d").size > Admin.bodyLimit := by decide +kernel
  have document : JsonDraft.readDocument Admin.BypassBody.ofJson
      (Text.encode "\x7b\"raw\":\"/q\"\x7d").data.toList = .ok ⟨"/q"⟩ := by decide +kernel
  refine .bypass endpoint rfl rfl ?_
  rw [Admin.readBody, declared, putBypass, if_neg (by decide), if_neg short, document]
  rfl

theorem exists_ofText_fingerprint (bytes : ByteArray) :
    ∃ rest, HeaderValue.ofText (fingerprint bytes) = 'W'.toUInt8 :: rest := by
  have front : (fingerprint bytes).toList =
      'W' :: ("/\"sha256:" ++ hexText (Sha256.digest bytes) ++ "\"").toList := by
    simp [fingerprint]
  rw [HeaderValue.ofText, Text.encode_eq, front, Text.bytesOfChars_cons_of_lt (by decide)]
  exact ⟨_, rfl⟩

/-- A stale fingerprint is heeded. -/
theorem serve_heeds_stale :
    keyless.Heeds (Volume.ofBypass (Text.encode "/a\n")) ⟨default, "", .passThrough, fun _ => none⟩
      (putBypass (HeaderValue.ofText (fingerprint (Text.encode "")))) keyless.bypass
      (HeaderValue.ofText (fingerprint (Text.encode ""))) :=
  serve_heeds (writes_putBypass _) rfl

/-- The letter é is not blank and is no fingerprint, but the file is replaced. -/
theorem not_guards_letter :
    (Volume.ofBypass (Text.encode "/a\n")).WellFormed ∧
      keyless.Writes (putBypass [0xC3, 0xA9]) keyless.bypass (.text "/q") ∧
      (putBypass [0xC3, 0xA9]).headers.get? "if-match" = some [0xC3, 0xA9] ∧
      HeaderValue.trimmed [0xC3, 0xA9] ≠ [] ∧
      ¬Guards [0xC3, 0xA9] keyless.bypass (Volume.ofBypass (Text.encode "/a\n"))
        (keyless.serve (Volume.ofBypass (Text.encode "/a\n"))
          ⟨default, "", .passThrough, fun _ => none⟩ (putBypass [0xC3, 0xA9])).volume := by
  have writes := writes_putBypass [0xC3, 0xA9]
  have wellFormed := Volume.wellFormed_ofBypass (Text.encode "/a\n")
  refine ⟨wellFormed, writes, rfl, by decide, fun guards => ?_⟩
  have before := Volume.at?_ofBypass (Text.encode "/a\n")
  have looked := Volume.read_ofBypass (Text.encode "/a\n") .look
  have sound : keyless.bypass.textOf (.text "/q") = .ok "/q" := by decide +kernel
  have asked : condition (putBypass [0xC3, 0xA9]) = none := by decide +kernel
  have meets : meetsPrecondition (Text.encode "/a\n") none := rfl
  rcases Volume.replaceWithBackup_ofBypass (Text.encode "/a\n") (Text.encode "/q") with
    ⟨left, replaces⟩
  have commits := PolicyFile.submit_of_ok sound (PolicyFile.bytes_of_read looked) meets replaces
  have after := Volume.at?_replaceWithBackup wellFormed (.inl ⟨_, looked⟩) replaces
  rcases guards with ⟨current, -, same⟩ | ⟨same, -⟩
  case inl =>
      rcases exists_ofText_fingerprint current with ⟨rest, starts⟩
      rw [starts] at same
      cases same
  case inr =>
      rw [writes.volume_serve, asked, commits] at same
      have replaced : Text.encode "/q" = Text.encode "/a\n" :=
        Disk.Entry.file.inj (Option.some.inj (after.symm.trans (same.trans before)))
      revert replaced
      decide

end Server

end Gatehouse
