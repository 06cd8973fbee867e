import Gatehouse.Admin.Access
import Gatehouse.Admin.Body
import Gatehouse.Http.Message
import Gatehouse.Policy.File

/-!
# Answers of the admin API

How results look to a client.  A sound check and a write are answered 200, a
defect 422, a write that lost its race 409 and a failing disk 500.
-/

namespace Gatehouse.Admin

open Http (Response)

def denied (denial : Denial) : Response :=
  .json 401 (.object [("error", .text denial.message)])

def rejected (fault : BodyFault) : Response :=
  .text fault.status fault.message

/-- The answer to a method that a route does not know. -/
def wrongMethod : Response :=
  .bare 405

def checked (report : Report) : Response :=
  .json (if report.isOk then 200 else 422)
    (.object [("ok", .bool report.isOk), ("messages", .texts report.messages)])

def written (result : Except PolicyError CommitOutcome) : Response :=
  match result with
  | .ok (.committed fingerprint _) =>
      (Response.json 200 (.object [("ok", .bool true), ("etag", .text fingerprint)])).setHeader
        "etag" fingerprint
  | .ok (.conflict current) =>
      .json 409 (.object [("error", .text "conflict"), ("currentETag", .text current)])
  | .error (.invalid report) => checked report
  | .error error => .json 500 (.object [("error", .text error.message)])

/-- The answer to a read that failed. -/
def unreadable (error : PolicyError) : Response :=
  .text 500 error.message

/-- The answer to a read of a policy in text form. -/
def bypassRules (result : Except PolicyError RawPolicy) : Response :=
  match result with
  | .ok raw => .json 200 (.object [("etag", .text raw.fingerprint), ("raw", .text raw.text)])
  | .error error => unreadable error

/-- The answer to a read of the cache policy: the text, the rules in force and the defects of
the text. -/
def cacheRules [PatternEngine] (policy : PolicyFile CacheRule)
    (result : Except PolicyError RawPolicy) : Response :=
  match result with
  | .ok raw =>
      .json 200 (.object [("etag", .text raw.fingerprint), ("raw", .text raw.text),
        ("rules", .list (((policy.published.map Ruleset.drafts).getD []).map RuleDraft.toJson)),
        ("errors", .texts (policy.validate raw.text).messages)])
  | .error error => unreadable error

def policyStatus {Rule : Type} (policy : PolicyFile Rule) : Json :=
  .object [("file", .text policy.path), ("loaded", .bool policy.isLoaded),
    ("rules", .ofNat policy.size), ("reloads", .ofNat policy.reloads),
    ("failed_reloads", .ofNat policy.failedReloads)]

end Gatehouse.Admin
