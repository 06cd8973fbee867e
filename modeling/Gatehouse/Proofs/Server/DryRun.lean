import Gatehouse.Pattern.Engine
import Gatehouse.Proofs.Cache.Drafts
import Gatehouse.Proofs.Server.Admission
import Gatehouse.Proofs.Server.Preconditions

/-!
# What a dry run tells about the write

A dry run checks what a write with the same body would put in the file.  Both read the body in the
same way.  A text is checked by the same check.  Rules in structured form are checked twice by the
write, as they are handed in and as the text that they make; the second check finds nothing, since
the text of sound rules is sound.

So the write is refused for its content exactly if the dry run is, in the same words.  What can
still keep a sound write from the file is a precondition that it does not meet, or the disk.
-/

namespace Gatehouse

open Disk (Timestamp Volume)
open Http (HeaderValue Headers Request Response)

namespace Admin

/-- What the answer to a dry run tells about the answer to the write. -/
structure Foretells (checked written : Response) : Prop where
  /-- The write is refused for its content exactly if the dry run is. -/
  refuses : written.status = 422 ↔ checked.status = 422
  /-- Whatever is wrong with the content or its form, both answer it in the same words. -/
  words : checked.status ≠ 200 → written = checked
  /-- Otherwise the write succeeds, loses a race, or the disk fails. -/
  passes : checked.status = 200 → written.status ∈ [200, 409, 500]

theorem foretells_self {response : Response} (fails : response.status ≠ 200) :
    Foretells response response :=
  ⟨Iff.rfl, fun _ => rfl, fun passes => absurd passes fails⟩

theorem status_written_of_valid {result : Except PolicyError CommitOutcome}
    (valid : ∀ report, result ≠ .error (.invalid report)) :
    (written result).status ∈ [200, 409, 500] := by
  unfold written
  split
  case h_3 report => exact absurd rfl (valid report)
  all_goals simp

end Admin

section

variable [PatternEngine]

namespace PolicyFile

variable {Rule : Type} {policy : PolicyFile Rule} {submission : Submission Rule} {report : Report}

/-- The report tells what becomes of the submission: it has a text for the file exactly if the
report is clean, and else it is refused with the report. -/
structure IsJudgedBy (policy : PolicyFile Rule) (submission : Submission Rule) (report : Report) :
    Prop where
  sound : report.isOk → ∃ text, policy.textOf submission = .ok text
  unsound : ¬report.isOk → policy.textOf submission = .error report

theorem isJudgedBy_validate (policy : PolicyFile Rule) (content : String) :
    policy.IsJudgedBy (.text content) (policy.validate content) where
  sound clean := ⟨content, if_pos clean⟩
  unsound defective := if_neg defective

theorem IsJudgedBy.foretells (judged : policy.IsJudgedBy submission report) (volume : Volume)
    (time : Timestamp) (condition : Option String) :
    Admin.Foretells (Admin.checked report)
      (Admin.written (policy.submit volume time submission condition).1) := by
  by_cases clean : report.isOk
  · -- There is a text to write; what is left to go wrong has nothing to do with it.
    have passes : (Admin.checked report).status = 200 := by
      simp [Admin.status_checked, clean]
    have ends : (Admin.written (policy.submit volume time submission condition).1).status ∈
        [200, 409, 500] := by
      rcases judged.sound clean with ⟨text, sound⟩
      apply Admin.status_written_of_valid
      intro report
      rw [submit_eq, sound]
      exact commitBytes_ne_invalid
    refine ⟨?_, fun fails => absurd passes fails, fun _ => ends⟩
    have unrefused := ne_of_mem_of_not_mem ends (by decide : 422 ∉ [200, 409, 500])
    exact iff_of_false unrefused (by simp [passes])
  · have refused : Admin.written (policy.submit volume time submission condition).1 =
        Admin.checked report := by
      rw [submit_eq, judged.unsound clean]
      rfl
    rw [refused]
    apply Admin.foretells_self
    simp [Admin.status_checked, clean]

end PolicyFile

theorem RuleDraft.not_isOk_of_build {drafts : List RuleDraft} {defects : Report}
    (failed : build drafts = .error defects) : ¬defects.isOk := by
  unfold build at failed
  split at failed
  case isTrue => cases failed
  case isFalse defective =>
    cases failed
    exact defective

namespace Server

variable {server : Server} {volume : Volume} {surroundings : Surroundings}
  {check put request : Request} {endpoint : Admin.Endpoint} {action : Admin.Action}

theorem isJudgedBy_checkCache (ofCache : server.cache.grammar = cacheGrammar)
    (body : Admin.CacheBody) :
    server.cache.IsJudgedBy body.submission (server.checkCache body) := by
  unfold Admin.CacheBody.submission checkCache
  cases body.rawMode
  · -- The rules are checked once more as a text, which finds nothing.
    cases built : RuleDraft.build body.rules with
    | ok ruleset =>
        exact ⟨fun _ => ⟨_, PolicyFile.textOf_drafts ofCache built⟩, fun defective =>
          absurd rfl defective⟩
    | error report =>
        have defective := RuleDraft.not_isOk_of_build built
        refine ⟨fun clean => absurd clean defective, fun _ => ?_⟩
        simp [PolicyFile.textOf, built, Except.bind]
  · exact PolicyFile.isJudgedBy_validate server.cache body.raw

/-- A request to check the body that another one writes. -/
structure IsDryRunOf (server : Server) (check put : Request) : Prop where
  /-- Both are about the same policy. -/
  leads : server.endpoint? check = some .bypassCheck ∧ server.endpoint? put = some .bypassRules ∨
    server.endpoint? check = some .cacheCheck ∧ server.endpoint? put = some .cacheRules
  methods : check.method = "POST" ∧ put.method = "PUT"
  admitted : Admin.admits server.settings check.headers ∧ Admin.admits server.settings put.headers
  sameType : check.headers.text? "content-type" = put.headers.text? "content-type"
  sameBody : check.body = put.body

theorem response_serve (leads : server.endpoint? request = some endpoint)
    (asks : endpoint.action? request.method = some action)
    (admitted : Admin.admits server.settings request.headers)
    (whole : request.method ≠ "HEAD" ∧ request.method ≠ "CONNECT") :
    (server.serve volume surroundings request).response =
      (server.act volume surroundings.time action request).response := by
  have undenied : Admin.denial? server.settings request.headers = none :=
    Option.isNone_iff_eq_none.mp admitted
  simp [serve_of_action leads asks, undenied, Response.sentTo, whole]

theorem IsDryRunOf.foretells {Body : Type} (isDryRun : server.IsDryRunOf check put)
    (read : JsonDraft → Except JsonFault Body) {checkedOn writtenOn : Volume}
    {checked written : Body → Served}
    (each : ∀ body, Admin.Foretells (checked body).response (written body).response) :
    Admin.Foretells (server.withBody read checkedOn check checked).response
      (server.withBody read writtenOn put written).response := by
  have alike : Admin.readBody read check.headers check.body =
      Admin.readBody read put.headers put.body := by
    rw [isDryRun.sameBody]
    exact Admin.readBody_congr read put.body isDryRun.sameType
  -- Where the body is refused, both refuse it.
  unfold withBody
  rw [alike]
  cases Admin.readBody read put.headers put.body with
  | error fault =>
      apply Admin.foretells_self
      exact ne_of_mem_of_not_mem (Admin.status_rejected_mem fault) (by decide)
  | ok body => exact each body

/-- Whatever the bodies, the policies, the disks and the preconditions: a dry run tells whether
the write is refused for its content, and in which words. -/
theorem dry_run_foretells_write (server : Server) (ofCache : server.cache.grammar = cacheGrammar)
    (check put : Request) (isDryRun : server.IsDryRunOf check put) (checkedOn writtenOn : Volume)
    (around aroundWrite : Surroundings) :
    Admin.Foretells (server.serve checkedOn around check).response
      (server.serve writtenOn aroundWrite put).response := by
  rcases isDryRun.methods with ⟨posts, puts⟩
  rcases isDryRun.admitted with ⟨checks, writes⟩
  rcases isDryRun.leads with ⟨toCheck, toWrite⟩ | ⟨toCheck, toWrite⟩
  · have checking : Admin.Endpoint.action? .bypassCheck check.method = some .checkBypass := by
      rw [posts]
      rfl
    have writing : Admin.Endpoint.action? .bypassRules put.method = some .writeBypass := by
      rw [puts]
      rfl
    rw [response_serve toCheck checking checks (by simp [posts]),
      response_serve toWrite writing writes (by simp [puts])]
    apply isDryRun.foretells
    intro body
    have judged := PolicyFile.isJudgedBy_validate server.bypass body.raw
    exact judged.foretells writtenOn aroundWrite.time (condition put)
  · have checking : Admin.Endpoint.action? .cacheCheck check.method = some .checkCache := by
      rw [posts]
      rfl
    have writing : Admin.Endpoint.action? .cacheRules put.method = some .writeCache := by
      rw [puts]
      rfl
    rw [response_serve toCheck checking checks (by simp [posts]),
      response_serve toWrite writing writes (by simp [puts])]
    apply isDryRun.foretells
    intro body
    have judged := isJudgedBy_checkCache ofCache body
    simpa only [writeCache_eq_submit] using
      judged.foretells writtenOn aroundWrite.time (condition put)

end Server

end

namespace Server

/-- A dry run, of a write with a stale precondition, on another disk. -/
theorem dry_run_foretells_write_stale :
    let surroundings : Surroundings := ⟨default, "", .passThrough, fun _ => none⟩
    let put := putBypass (HeaderValue.ofText (fingerprint .empty))
    let check : Request := {
      method := "POST"
      target := ⟨"", "/rulegate-api/bypass-rules:validate", none⟩
      headers := ⟨[("content-type", HeaderValue.ofText "application/json")]⟩
      body := put.body }
    keyless.IsDryRunOf check put ∧
      Admin.Foretells (keyless.serve .blank surroundings check).response
        (keyless.serve (Volume.ofBypass (Text.encode "/a\n")) surroundings put).response := by
  intro surroundings put check
  have toCheck : keyless.endpoint? check = some .bypassCheck := by decide +kernel
  have toWrite : keyless.endpoint? put = some .bypassRules := by
    change Admin.BasePath.endpoint? "/rulegate-api" "/rulegate-api/bypass-rules" = _
    decide +kernel
  have isDryRun : keyless.IsDryRunOf check put :=
    ⟨.inl ⟨toCheck, toWrite⟩, ⟨rfl, rfl⟩, ⟨rfl, rfl⟩, rfl, rfl⟩
  exact ⟨isDryRun, dry_run_foretells_write keyless rfl check put isDryRun .blank
    (Volume.ofBypass (Text.encode "/a\n")) surroundings surroundings⟩

end Server

end Gatehouse
