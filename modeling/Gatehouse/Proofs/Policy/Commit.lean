import Gatehouse.Bypass
import Gatehouse.Pattern.Engine
import Gatehouse.Policy.File
import Gatehouse.Proofs.Disk.Holding
import Gatehouse.Proofs.Text.Utf8Bytes

/-!
# Commits

A commit has six outcomes, and `Submitted` names what each of them has found
and what it leaves.  Texts and structured rules come to the same commit once the
text to be written is known, so a `Submission` is either of them.

A commit is all or nothing.  It answers that it has committed exactly if it has
replaced the file.  Then it loads the file, and publishes what the file holds; only
if the disk does not let it read what it has just written, the old ruleset stays
in force, one more failure is counted and the answer carries the old number of
rules.  If it answers anything else the policy is as before, and so is the file,
unless the backup of the file leads onto the file itself.
-/

namespace Gatehouse

open Disk (Path Timestamp Volume)

namespace PolicyFile

variable {Rule : Type} {policy : PolicyFile Rule} {volume left : Volume} {content : ByteArray}
  {text : String}

/-- The policy with the ruleset of a text in force, as one more load leaves it. -/
def loaded (policy : PolicyFile Rule) (text : String) : PolicyFile Rule :=
  { policy.publish (policy.grammar.parse text) with reloadCounter := policy.reloadCounter + 1 }

/-- The policy as one more load leaves it that fails. -/
def stale (policy : PolicyFile Rule) : PolicyFile Rule :=
  { policy with failureCounter := policy.failureCounter + 1 }

theorem readable_of_bytes (read : policy.bytes volume = .ok content) :
    volume.Readable policy.path := by
  unfold bytes at read
  split at read
  · exact .inl ⟨_, ‹_›⟩
  · exact .inr ‹_›
  · cases read

theorem bytes_of_read (read : volume.read policy.path .look = .ok content) :
    policy.bytes volume = .ok content := by
  simp [PolicyFile.bytes, read]

theorem bytes_congr {other : Volume}
    (same : other.read policy.path .look = volume.read policy.path .look) :
    policy.bytes other = policy.bytes volume := by
  simp [PolicyFile.bytes, same]

@[simp]
theorem grammar_settle (answer : Except PolicyError (Ruleset Rule)) :
    (policy.settle answer).2.grammar = policy.grammar := by
  cases answer <;> rfl

@[simp]
theorem path_settle (answer : Except PolicyError (Ruleset Rule)) :
    (policy.settle answer).2.path = policy.path := by
  cases answer <;> rfl

theorem load_of_decode (grammar : Grammar Rule) {path : Path} {bytes : ByteArray}
    (read : volume.read path = .ok bytes) (decoded : Text.decode? bytes = some text) :
    load grammar volume path = .ok (grammar.parse text) := by
  simp [load, read, rulesetOf, decoded]

theorem reload_of_read (read : volume.read policy.path = .ok (Text.encode text)) :
    policy.reload volume = (.ok (policy.grammar.parse text).size, policy.loaded text) := by
  simp [reload, load, read, rulesetOf, settle, loaded]

theorem reload_of_refused {error : Disk.Error} (refused : volume.refusal .read = some error) :
    policy.reload volume = (.error (.disk error), policy.stale) := by
  have unread : volume.read policy.path = .error error := by
    simp [Volume.read, Volume.allow, refused, bind, Except.bind]
  simp [reload, load, unread, settle, stale]

/-- A commit of a text has found what it asks for and replaced the file. -/
structure Replaces (policy : PolicyFile Rule) (volume : Volume) (time : Timestamp)
    (condition : Option String) (text : String) (left : Volume) : Prop where
  passed : ∃ current, policy.bytes volume = .ok current ∧ meetsPrecondition current condition
  succeeds : volume.replaceWithBackup policy.path (Text.encode text) time = (.ok (), left)
  written : left.at? policy.path = some (.file (Text.encode text))
  refusal : left.refusal = volume.refusal
  /-- The new file can be looked at as the old one could. -/
  bytes : policy.bytes left = .ok (Text.encode text)

theorem replaces_of_replaceWithBackup {current : ByteArray} {time : Timestamp}
    {condition : Option String} (wellFormed : volume.WellFormed)
    (read : policy.bytes volume = .ok current) (meets : meetsPrecondition current condition)
    (succeeds : volume.replaceWithBackup policy.path (Text.encode text) time = (.ok (), left)) :
    policy.Replaces volume time condition text left := by
  have readable := readable_of_bytes read
  have written := Volume.at?_replaceWithBackup wellFormed readable succeeds
  have refusal := Volume.refusal_replaceWithBackup wellFormed policy.path (Text.encode text) time
  rw [succeeds] at refusal
  have looks : left.refusal .look = none := by
    rw [refusal]
    exact readable.allowed wellFormed
  exact ⟨⟨current, read, meets⟩, succeeds, written, refusal,
    bytes_of_read (Volume.read_eq_ok_iff.mpr ⟨looks, written⟩)⟩

theorem Replaces.reread {after : PolicyFile Rule} {time : Timestamp}
    {condition : Option String}
    (replaces : policy.Replaces volume time condition text left)
    (path : after.path = policy.path) :
    (after.readRaw left).map RawPolicy.fingerprint = .ok (fingerprint (Text.encode text)) := by
  have looked : after.bytes left = .ok (Text.encode text) := by
    rw [PolicyFile.bytes, path]
    exact replaces.bytes
  rw [readRaw, looked]
  rfl

end PolicyFile

section

variable [PatternEngine]

/-- What a writer hands in: the text of a policy, or the rules of a cache policy. -/
inductive Submission : Type → Type 1 where
  | text {Rule : Type} (content : String) : Submission Rule
  | drafts (drafts : List RuleDraft) : Submission CacheRule

namespace PolicyFile

variable {Rule : Type}

/-- Commits what a writer hands in. -/
def submit (policy : PolicyFile Rule) (volume : Volume) (time : Timestamp)
    (submission : Submission Rule) (condition : Option String) :
    Except PolicyError CommitOutcome × PolicyFile Rule × Volume :=
  match submission with
  | .text content => policy.commit volume time content condition
  | .drafts drafts => policy.commitDrafts volume time drafts condition

/-- A text, unless strict checking finds defects in it. -/
def checked (policy : PolicyFile Rule) (content : String) : Except Report String :=
  if (policy.validate content).isOk then .ok content else .error (policy.validate content)

/-- The text that a submission puts in the file, or the report on its defects. -/
def textOf (policy : PolicyFile Rule) : Submission Rule → Except Report String
  | .text content => policy.checked content
  | .drafts drafts => (RuleDraft.build drafts).bind fun ruleset => policy.checked ruleset.cacheFile

variable {policy : PolicyFile Rule} {volume left : Volume} {time : Timestamp}
  {submission : Submission Rule} {condition : Option String} {text : String} {current : ByteArray}
  {error : Disk.Error}

/-- What a commit can come to: its answer, the policy and the volume. -/
inductive Submitted (policy : PolicyFile Rule) (volume : Volume) (time : Timestamp)
    (submission : Submission Rule) (condition : Option String) :
    Except PolicyError CommitOutcome × PolicyFile Rule × Volume → Prop
  | invalid {report : Report} (unsound : policy.textOf submission = .error report) :
      Submitted policy volume time submission condition
        (.error (.invalid report), policy, volume)
  | unreadable {text : String} {error : PolicyError}
      (sound : policy.textOf submission = .ok text) (fails : policy.bytes volume = .error error) :
      Submitted policy volume time submission condition (.error error, policy, volume)
  | conflict {text : String} {current : ByteArray}
      (sound : policy.textOf submission = .ok text) (read : policy.bytes volume = .ok current)
      (differs : ¬meetsPrecondition current condition) :
      Submitted policy volume time submission condition
        (.ok (.conflict (fingerprint current)), policy, volume)
  | unwritten {text : String} {current : ByteArray} {error : Disk.Error} {left : Volume}
      (sound : policy.textOf submission = .ok text) (read : policy.bytes volume = .ok current)
      (meets : meetsPrecondition current condition)
      (fails : volume.replaceWithBackup policy.path (Text.encode text) time = (.error error, left))
      (abandoned : volume.Abandoned policy.path time left) :
      Submitted policy volume time submission condition (.error (.disk error), policy, left)
  | committed {text : String} {left : Volume} (sound : policy.textOf submission = .ok text)
      (replaces : policy.Replaces volume time condition text left)
      (loads : volume.refusal .read = none) :
      Submitted policy volume time submission condition
        (.ok (.committed (fingerprint (Text.encode text)) (policy.grammar.parse text).size),
          policy.loaded text, left)
  /-- The file is replaced but cannot be loaded. -/
  | unloaded {text : String} {left : Volume} {error : Disk.Error}
      (sound : policy.textOf submission = .ok text)
      (replaces : policy.Replaces volume time condition text left)
      (refused : volume.refusal .read = some error) :
      Submitted policy volume time submission condition
        (.ok (.committed (fingerprint (Text.encode text)) policy.size), policy.stale, left)

theorem submit_eq (policy : PolicyFile Rule) (volume : Volume) (time : Timestamp)
    (submission : Submission Rule) (condition : Option String) :
    policy.submit volume time submission condition =
      match policy.textOf submission with
      | .error report => (.error (.invalid report), policy, volume)
      | .ok text => policy.commitBytes volume time (Text.encode text) condition := by
  have committed : ∀ content, policy.commit volume time content condition =
      match policy.checked content with
      | .error report => (.error (.invalid report), policy, volume)
      | .ok text => policy.commitBytes volume time (Text.encode text) condition := by
    intro content
    unfold commit checked
    split <;> rfl
  cases submission with
  | text content => exact committed content
  | drafts drafts =>
      simp only [submit, commitDrafts, textOf]
      cases RuleDraft.build drafts with
      | error report => rfl
      | ok ruleset =>
          simp only [Except.bind]
          exact committed ruleset.cacheFile

theorem submit_of_error (sound : policy.textOf submission = .ok text)
    (read : policy.bytes volume = .ok current) (meets : meetsPrecondition current condition)
    (fails : volume.replaceWithBackup policy.path (Text.encode text) time = (.error error, left)) :
    policy.submit volume time submission condition = (.error (.disk error), policy, left) := by
  simp only [submit_eq, sound, commitBytes, read, if_pos meets, fails]

theorem submit_of_ok (sound : policy.textOf submission = .ok text)
    (read : policy.bytes volume = .ok current) (meets : meetsPrecondition current condition)
    (succeeds : volume.replaceWithBackup policy.path (Text.encode text) time = (.ok (), left)) :
    policy.submit volume time submission condition =
      (.ok (.committed (fingerprint (Text.encode text)) (policy.reload left).2.size),
        (policy.reload left).2, left) := by
  simp only [submit_eq, sound, commitBytes, read, if_pos meets, succeeds]

theorem Submitted.of_replaces (sound : policy.textOf submission = .ok text)
    (replaces : policy.Replaces volume time condition text left) :
    policy.Submitted volume time submission condition
      (.ok (.committed (fingerprint (Text.encode text)) (policy.reload left).2.size),
        (policy.reload left).2, left) := by
  cases allowed : volume.refusal .read with
  | none =>
      have loads : left.read policy.path = .ok (Text.encode text) :=
        Volume.read_eq_ok_iff.mpr ⟨by rw [replaces.refusal, allowed], replaces.written⟩
      rw [reload_of_read loads]
      exact .committed sound replaces allowed
  | some error =>
      have refused : left.refusal .read = some error := by rw [replaces.refusal, allowed]
      rw [reload_of_refused refused]
      exact .unloaded sound replaces allowed

theorem submitted_submit (wellFormed : volume.WellFormed) (policy : PolicyFile Rule)
    (time : Timestamp) (submission : Submission Rule) (condition : Option String) :
    policy.Submitted volume time submission condition
      (policy.submit volume time submission condition) := by
  cases sound : policy.textOf submission with
  | error report =>
      rw [submit_eq, sound]
      exact .invalid sound
  | ok text =>
      cases read : policy.bytes volume with
      | error error =>
          simp only [submit_eq, sound, commitBytes, read]
          exact .unreadable sound read
      | ok current =>
          by_cases meets : meetsPrecondition current condition
          · rcases replaced : volume.replaceWithBackup policy.path (Text.encode text) time with
              ⟨error | _, left⟩
            · rw [submit_of_error sound read meets replaced]
              exact .unwritten sound read meets replaced
                (Volume.abandoned_of_error wellFormed replaced)
            · rw [submit_of_ok sound read meets replaced]
              exact .of_replaces sound
                (replaces_of_replaceWithBackup wellFormed read meets replaced)
          · simp only [submit_eq, sound, commitBytes, read, if_neg meets]
            exact .conflict sound read meets

theorem Submitted.wellFormed {after : Except PolicyError CommitOutcome × PolicyFile Rule × Volume}
    (submitted : policy.Submitted volume time submission condition after)
    (wellFormed : volume.WellFormed) : after.2.2.WellFormed := by
  have kept : ∀ {text left}, policy.Replaces volume time condition text left →
      left.WellFormed := by
    intro text left replaces
    have kept := Volume.wellFormed_replaceWithBackup wellFormed policy.path (Text.encode text) time
    rw [replaces.succeeds] at kept
    exact kept
  cases submitted with
  | invalid => exact wellFormed
  | unreadable => exact wellFormed
  | conflict => exact wellFormed
  | unwritten sound read meets fails abandoned => exact abandoned.wellFormed wellFormed
  | committed sound replaces loads => exact kept replaces
  | unloaded sound replaces refused => exact kept replaces

end PolicyFile

end

namespace PolicyFile

/-- A disk with a bypass policy that refuses one kind of step. -/
def refusing (step : Disk.Step) : Volume :=
  { Volume.ofBypass (Text.encode "/a\n/b\n") with
    refusal := fun other => if other = step then some .deviceFault else none }

theorem holdsFile_refusing {step : Disk.Step} (known : step ∈ [Disk.Step.sync, .read]) :
    (refusing step).HoldsFile "bypass.conf" (Text.encode "/a\n/b\n") where
  plain := Volume.isPlain_bypass
  root := rfl
  sound other elsewhere := if_neg (by rintro rfl; exact elsewhere known)
  free := (Volume.holdsFile_ofBypass (Text.encode "/a\n/b\n")).free
  stands := rfl

theorem wellFormed_refusing {step : Disk.Step} (known : step ∈ [Disk.Step.sync, .read]) :
    (refusing step).WellFormed := by
  have plain := Volume.wellFormed_ofBypass (Text.encode "/a\n/b\n")
  refine ⟨plain.start, plain.above, ?_⟩
  rw [(holdsFile_refusing known).sound .look (by decide)]
  simp

theorem bytes_refusing {policy : PolicyFile BypassEntry} {step : Disk.Step}
    (file : policy.path = "bypass.conf") (known : step ∈ [Disk.Step.sync, .read]) :
    policy.bytes (refusing step) = .ok (Text.encode "/a\n/b\n") := by
  have holds := holdsFile_refusing known
  apply bytes_of_read
  rw [file]
  exact holds.read_eq (holds.sound .look (by decide))

theorem textOf_rule {policy : PolicyFile BypassEntry} (grammar : policy.grammar = bypassGrammar) :
    policy.textOf (.text "/c\n") = .ok "/c\n" := by
  have sound : (bypassGrammar.validate "/c\n").isOk := by decide +kernel
  rw [textOf, checked, validate, grammar, if_pos sound]

/-- The file is replaced, but no rule of it comes in force. -/
theorem submit_unloadable {policy : PolicyFile BypassEntry} (file : policy.path = "bypass.conf")
    (grammar : policy.grammar = bypassGrammar) :
    policy.submit (refusing .read) default (.text "/c\n") none =
      (.ok (.committed (fingerprint (Text.encode "/c\n")) policy.size), policy.stale,
        ((refusing .read).put ["bypass.conf.00000000-000000.bak"]
          (.file (Text.encode "/a\n/b\n"))).put ["bypass.conf"] (.file (Text.encode "/c\n"))) := by
  have meets : meetsPrecondition (Text.encode "/a\n/b\n") none := rfl
  have replaced := (@holdsFile_refusing .read (by decide)).replaceWithBackup_eq rfl
    (Text.encode "/c\n") (Volume.copyTarget?_default rfl (.inl rfl)) (by decide +kernel) (by decide)
  have succeeds := (congrArg (fun path => (refusing .read).replaceWithBackup path
    (Text.encode "/c\n") default) file).trans replaced
  rw [submit_of_ok (textOf_rule grammar) (bytes_refusing file (by decide)) meets succeeds,
    reload_of_refused rfl]
  rfl

end PolicyFile

end Gatehouse
