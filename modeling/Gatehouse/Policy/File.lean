import Gatehouse.Cache.Draft
import Gatehouse.Disk.Replace
import Gatehouse.Fingerprint
import Gatehouse.Policy.Error
import Gatehouse.Text.Utf8

/-!
# Policy files

A policy file is a file on a volume together with the ruleset that was
published from it last.  Requests are judged by the published ruleset alone, so
a file that cannot be read leaves the last good rules in force.

There is one way from the file to the published ruleset: `reload`, which loads
and then publishes.  A commit checks the content, then the precondition,
replaces the file, and reloads.  Once the file is replaced the commit has
succeeded, also if the reload fails: then it answers with the number of rules
that are still in force.
-/

namespace Gatehouse

open Disk (Path Timestamp Volume)

/-- The state of a policy: where it is kept and what is in force. -/
structure PolicyFile (Rule : Type) where
  /-- What the lines of the file mean. -/
  grammar : Grammar Rule
  path : Path
  /-- The ruleset in force; none before the first load. -/
  published : Option (Ruleset Rule)
  /-- Counts the loads that succeeded, from zero again when it is full. -/
  reloadCounter : UInt64
  /-- Counts the loads that failed, from zero again when it is full. -/
  failureCounter : UInt64

/-- The content of a policy file as it is on the volume. -/
structure RawPolicy where
  /-- The text, with unreadable bytes replaced. -/
  text : String
  /-- The fingerprint of the bytes. -/
  fingerprint : String
  deriving DecidableEq, Repr

/-- What became of a commit whose content is sound. -/
inductive CommitOutcome where
  /-- The content is in the file; the numbers tell its rules. -/
  | committed (fingerprint : String) (rules : Nat)
  /-- The file is not what the writer asked for; it stays. -/
  | conflict (current : String)
  deriving DecidableEq, Repr

namespace PolicyFile

variable {Rule : Type}

/-- The policy of a file, with nothing loaded. -/
def new (grammar : Grammar Rule) (path : Path) : PolicyFile Rule :=
  ⟨grammar, path, none, 0, 0⟩

def reloads (policy : PolicyFile Rule) : Nat :=
  policy.reloadCounter.toNat

def failedReloads (policy : PolicyFile Rule) : Nat :=
  policy.failureCounter.toNat

def isLoaded (policy : PolicyFile Rule) : Bool :=
  policy.published.isSome

def size (policy : PolicyFile Rule) : Nat :=
  (policy.published.map Ruleset.size).getD 0

/-- The ruleset that bytes hold; only bytes that are not UTF-8 hold none. -/
def rulesetOf (grammar : Grammar Rule) (path : Path) (bytes : ByteArray) :
    Except PolicyError (Ruleset Rule) :=
  match Text.decode? bytes with
  | some text => .ok (grammar.parse text)
  | none => .error (.encoding path)

/-- Reads the ruleset of a file, leniently. -/
def load (grammar : Grammar Rule) (volume : Volume) (path : Path) :
    Except PolicyError (Ruleset Rule) :=
  match volume.read path with
  | .ok bytes => rulesetOf grammar path bytes
  | .error error => .error (.disk error)

def publish (policy : PolicyFile Rule) (ruleset : Ruleset Rule) : PolicyFile Rule :=
  { policy with published := some ruleset }

/-- Takes in what a load answered: a ruleset comes in force, a failure is counted. -/
def settle (policy : PolicyFile Rule) :
    Except PolicyError (Ruleset Rule) → Except PolicyError Nat × PolicyFile Rule
  | .ok ruleset =>
      (.ok ruleset.size,
        { policy.publish ruleset with reloadCounter := policy.reloadCounter + 1 })
  | .error error =>
      (.error error, { policy with failureCounter := policy.failureCounter + 1 })

/-- Loads the file and puts its ruleset in force; on failure the old one stays. -/
def reload (policy : PolicyFile Rule) (volume : Volume) :
    Except PolicyError Nat × PolicyFile Rule :=
  policy.settle (load policy.grammar volume policy.path)

/-- The policy of a file, loaded. -/
def openAt (grammar : Grammar Rule) (path : Path) (volume : Volume) :
    Except PolicyError (PolicyFile Rule) :=
  match (new grammar path).reload volume with
  | (.ok _, policy) => .ok policy
  | (.error error, _) => .error error

/-- The bytes of the file; a missing file is empty. -/
def bytes (policy : PolicyFile Rule) (volume : Volume) : Except PolicyError ByteArray :=
  match volume.read policy.path .look with
  | .ok bytes => .ok bytes
  | .error .notFound => .ok .empty
  | .error error => .error (.disk error)

/-- The file as it is on the volume. -/
def readRaw (policy : PolicyFile Rule) (volume : Volume) : Except PolicyError RawPolicy :=
  (policy.bytes volume).map fun bytes => ⟨Text.decodeLossy bytes, fingerprint bytes⟩

def validate (policy : PolicyFile Rule) (content : String) : Report :=
  policy.grammar.validate content

/-- Replaces the file with bytes if the precondition holds, and reloads. -/
def commitBytes (policy : PolicyFile Rule) (volume : Volume) (time : Timestamp)
    (content : ByteArray) (condition : Option String) :
    Except PolicyError CommitOutcome × PolicyFile Rule × Volume :=
  match policy.bytes volume with
  | .error error => (.error error, policy, volume)
  | .ok current =>
      if meetsPrecondition current condition then
        match volume.replaceWithBackup policy.path content time with
        | (.error error, left) => (.error (.disk error), policy, left)
        | (.ok (), replaced) =>
            let (_, reloaded) := policy.reload replaced
            (.ok (.committed (fingerprint content) reloaded.size), reloaded, replaced)
      else (.ok (.conflict (fingerprint current)), policy, volume)

/-- Replaces the file with a text if the text is sound and the precondition holds. -/
def commit (policy : PolicyFile Rule) (volume : Volume) (time : Timestamp)
    (content : String) (condition : Option String) :
    Except PolicyError CommitOutcome × PolicyFile Rule × Volume :=
  if (policy.validate content).isOk then
    policy.commitBytes volume time (Text.encode content) condition
  else (.error (.invalid (policy.validate content)), policy, volume)

/-- Replaces a cache policy with rules in structured form; what is written is
checked as a text once more. -/
def commitDrafts [PatternEngine] (policy : PolicyFile CacheRule) (volume : Volume)
    (time : Timestamp) (drafts : List RuleDraft) (condition : Option String) :
    Except PolicyError CommitOutcome × PolicyFile CacheRule × Volume :=
  match RuleDraft.build drafts with
  | .error report => (.error (.invalid report), policy, volume)
  | .ok ruleset => policy.commit volume time ruleset.cacheFile condition

end PolicyFile

end Gatehouse
