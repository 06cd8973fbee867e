import Gatehouse.Bypass
import Gatehouse.Pattern.Engine
import Gatehouse.Proofs.Disk.Backups
import Gatehouse.Proofs.Policy.Session

/-!
# Superseded policies

Whoever replaces a policy leaves the old one in a backup that is named after the second of the
write.  A run of writes keeps what each of them has replaced, as long as every copy succeeds: a
later write changes the file and the backup of its own second, and no other backup.

Two writes of one second share a backup.  The later one overwrites what the earlier one has kept
there, and that content is lost although both copies have succeeded.  A link at the name of a
backup does the same: it leads the copy to another backup.
-/

namespace Gatehouse

open Disk (Location Path Timestamp Volume backupPath)

section

variable [PatternEngine]

namespace PolicyTurn

variable {Rule : Type} {turn : PolicyTurn Rule} {time : Timestamp} {old : ByteArray}

/-- The turn is a commit that succeeds.  If the file is there, so does its copy. -/
structure Overwrites (turn : PolicyTurn Rule) (time : Timestamp) : Prop where
  writes : ∃ submission condition, turn.event = .submit submission condition time
  commits : turn.Commits
  backsUp : turn.before.volume.hasAt turn.before.policy.path →
    turn.before.volume.CanBackUp turn.before.policy.path time

/-- No link stands at the name of the backup. -/
def IsUnlinked (turn : PolicyTurn Rule) (time : Timestamp) : Prop :=
  ¬turn.before.volume.IsLink (backupPath turn.before.policy.path time)

theorem Overwrites.exists_replaces (overwrites : turn.Overwrites time) :
    ∃ condition text, turn.before.policy.Replaces turn.before.volume time condition text
        turn.after.volume ∧ turn.after.policy.path = turn.before.policy.path := by
  rcases overwrites.writes with ⟨submission, condition, writes⟩
  rcases overwrites.commits with ⟨token, rules, committed⟩
  rcases PolicyTurn.exists_replaces writes committed with ⟨text, replaces, -, path⟩
  exact ⟨condition, text, replaces, path⟩

theorem Overwrites.superseded (overwrites : turn.Overwrites time) (unlinked : turn.IsUnlinked time)
    (source : turn.before.volume.at? turn.before.policy.path = some (.file old)) :
    ∃ content, turn.before.volume.Superseded turn.before.policy.path time old content
      turn.after.volume := by
  rcases overwrites.exists_replaces with ⟨condition, text, replaces, -⟩
  rcases replaces.passed with ⟨current, read, -⟩
  have stands : turn.before.volume.hasAt turn.before.policy.path := by
    rw [Volume.hasAt, source]
    rfl
  exact ⟨Text.encode text, Volume.superseded_of_canBackUp turn.before.wellFormed source
    (PolicyFile.readable_of_bytes read) (overwrites.backsUp stands) unlinked replaces.succeeds⟩

end PolicyTurn

namespace PolicySession

variable {Rule : Type} {session : PolicySession Rule} {events : List (PolicyEvent Rule)}
  {path : Path} {time : Timestamp} {content : ByteArray}

/-- A run of writes whose copies succeed, none of them through a link. -/
def OverwritesOnly (session : PolicySession Rule) (events : List (PolicyEvent Rule)) : Prop :=
  ∀ turn ∈ session.transcript events, ∃ time, turn.Overwrites time ∧ turn.IsUnlinked time

theorem path_run (writes : session.OverwritesOnly events) :
    (session.run events).policy.path = session.policy.path := by
  induction events generalizing session with
  | nil => rfl
  | cons event rest ih =>
      rw [OverwritesOnly, transcript, List.forall_mem_cons] at writes
      rcases writes with ⟨⟨time, overwrites, -⟩, others⟩
      rcases overwrites.exists_replaces with ⟨_, _, -, same⟩
      exact (ih others).trans same

/-- The file of the policy is there, and so is the backup of a second. -/
structure Keeps (session : PolicySession Rule) (path : Path) (time : Timestamp)
    (content : ByteArray) : Prop where
  file : session.policy.path = path
  stands : ∃ current, session.volume.at? path = some (.file current)
  backup : session.volume.Keeps path time content

theorem Keeps.run (keeps : session.Keeps path time content)
    (writes : session.OverwritesOnly events)
    (others : ∀ submission condition later, .submit submission condition later ∈ events →
      later.compact ≠ time.compact) :
    (session.run events).Keeps path time content := by
  induction events generalizing session with
  | nil => exact keeps
  | cons event rest ih =>
      -- The path and a file that stands are carried along: the next write needs them.
      rw [OverwritesOnly, transcript, List.forall_mem_cons] at writes
      rcases writes with ⟨⟨later, overwrites, unlinked⟩, behind⟩
      rcases keeps with ⟨rfl, ⟨current, stands⟩, backup⟩
      rcases overwrites.writes with ⟨submission, condition, rfl⟩
      rcases overwrites.superseded unlinked stands with ⟨new, superseded⟩
      rcases overwrites.exists_replaces with ⟨_, _, replaces, samePath⟩
      have another := others submission condition later List.mem_cons_self
      refine ih ⟨samePath, ⟨_, replaces.written⟩, backup.superseded superseded another⟩ behind ?_
      intro submission condition time eventMem
      exact others submission condition time (List.mem_cons_of_mem _ eventMem)

/-- What a write has replaced is held by the backup of its second at the end of a run of writes,
unless a later one falls into the same second. -/
theorem superseded_contents_are_kept (session : PolicySession Rule)
    (events : List (PolicyEvent Rule)) (writes : session.OverwritesOnly events)
    {earlier later : List (PolicyEvent Rule)} {submission : Submission Rule}
    {condition : Option String} {time : Timestamp} {content : ByteArray}
    (whole : events = earlier ++ .submit submission condition time :: later)
    (replaces : (session.run earlier).volume.at? session.policy.path = some (.file content))
    (others : ∀ submission condition other, .submit submission condition other ∈ later →
      other.compact ≠ time.compact) :
    (session.run events).volume.at? (backupPath session.policy.path time) =
      some (.file content) := by
  rw [OverwritesOnly, whole, transcript_append, List.forall_mem_append, transcript,
    List.forall_mem_cons] at writes
  rcases writes with ⟨before, ⟨time', overwrites, unlinked⟩, behind⟩
  rcases overwrites.writes with ⟨_, _, same⟩
  cases same
  have samePath := path_run before
  rw [← samePath] at replaces ⊢
  rcases overwrites.superseded unlinked replaces with ⟨new, superseded⟩
  rcases overwrites.exists_replaces with ⟨_, _, written, kept⟩
  rw [whole, run_append]
  exact (Keeps.run ⟨kept, ⟨_, written.written⟩, superseded.keeps⟩ behind others).backup.at?_eq

end PolicySession

end

namespace PolicySession

variable {Rule : Type} {session : PolicySession Rule} {time : Timestamp}

theorem overwrites_of_holdsFile {text : String} {location : Location} {old : ByteArray}
    (sound : session.policy.textOf (.text text) = .ok text)
    (holds : session.volume.HoldsFile session.policy.path old)
    (permits : ∀ step, session.volume.refusal step = none)
    (target : session.volume.copyTarget? (backupPath session.policy.path time) = some location)
    (notTemporary : location ≠ [Volume.temporaryName 0])
    (notFile : location ≠ [session.policy.path]) :
    let turn : PolicyTurn Rule := ⟨session, .submit (.text text) none time⟩
    turn.Overwrites time ∧ turn.after.policy = session.policy.loaded text ∧
      turn.after.volume =
        (session.volume.put location (.file old)).put [session.policy.path]
          (.file (Text.encode text)) := by
  intro turn
  generalize leaves : (session.volume.put location (.file old)).put [session.policy.path]
    (.file (Text.encode text)) = left
  have replaced : session.volume.replaceWithBackup session.policy.path (Text.encode text) time =
      (.ok (), left) := by
    rw [← leaves]
    exact holds.replaceWithBackup_eq (permits .sync) (Text.encode text) target notTemporary notFile
  have read : session.policy.bytes session.volume = .ok old :=
    PolicyFile.bytes_of_read (holds.read_eq (permits .look))
  have loads : left.read session.policy.path = .ok (Text.encode text) := by
    rw [← leaves]
    exact ((holds.put notTemporary notFile).put_self _).read_eq (permits .read)
  have meets : meetsPrecondition old none := rfl
  have submitted := PolicyFile.submit_of_ok sound read meets replaced
  rw [PolicyFile.reload_of_read loads] at submitted
  have answered : turn.answer = .submitted (.ok (.committed (fingerprint (Text.encode text))
      (session.policy.loaded text).size)) := by
    change PolicyAnswer.submitted
      (session.policy.submit session.volume time (.text text) none).1 = _
    rw [submitted]
  refine ⟨⟨⟨_, _, rfl⟩, ⟨_, _, answered⟩, fun _ => ?_⟩, ?_, ?_⟩
  · exact ⟨permits .copy, permits .copyContent, _, _, holds.resolve_eq, target, notFile⟩
  · change (session.policy.submit session.volume time (.text text) none).2.1 = _
    rw [submitted]
  · change (session.policy.submit session.volume time (.text text) none).2.2 = _
    rw [submitted]

def write (text : String) (time : Timestamp) : PolicyEvent BypassEntry :=
  .submit (.text text) none time

theorem overwrites_twice {volume : Volume} {old : ByteArray} {first second : Timestamp}
    {one two : Location} (wellFormed : volume.WellFormed) (holds : volume.HoldsFile "bypass.conf" old)
    (permits : ∀ step, volume.refusal step = none)
    (toOne : volume.copyTarget? (backupPath "bypass.conf" first) = some one)
    (toTwo : Volume.copyTarget? ((volume.put one (.file old)).put ["bypass.conf"]
      (.file (Text.encode "/b\n"))) (backupPath "bypass.conf" second) = some two)
    (apart : ∀ place ∈ [one, two],
      place ≠ [Volume.temporaryName 0] ∧ place ≠ ["bypass.conf"]) :
    let session := start bypassGrammar "bypass.conf" volume wellFormed
    let half := (volume.put one (.file old)).put ["bypass.conf"] (.file (Text.encode "/b\n"))
    ∃ before after : PolicyTurn BypassEntry,
      session.transcript [write "/b\n" first, write "/c\n" second] = [before, after] ∧
      before.Overwrites first ∧ before.before.volume = volume ∧
      after.Overwrites second ∧ after.before.volume = half ∧
      (session.run [write "/b\n" first, write "/c\n" second]).volume =
        (half.put two (.file (Text.encode "/b\n"))).put ["bypass.conf"]
          (.file (Text.encode "/c\n")) := by
  intro session half
  rw [List.forall_mem_cons, List.forall_mem_singleton] at apart
  rcases apart with ⟨⟨oneTemporary, oneFile⟩, twoTemporary, twoFile⟩
  have soundFirst : (PolicyFile.new bypassGrammar "bypass.conf").textOf (.text "/b\n") =
      .ok "/b\n" := by decide +kernel
  have soundSecond : (PolicyFile.new bypassGrammar "bypass.conf").textOf (.text "/c\n") =
      .ok "/c\n" := by decide +kernel
  rcases @overwrites_of_holdsFile _ session _ _ _ _ soundFirst holds permits toOne oneTemporary
    oneFile with ⟨overwrites, policy, leaves⟩
  generalize reached : PolicyTurn.after ⟨session, .submit (.text "/b\n") none first⟩ = between
    at policy leaves
  have left : between.volume = half := leaves
  have samePolicy : between.policy = session.policy.loaded "/b\n" := policy
  have file : between.policy.path = "bypass.conf" := by
    rw [samePolicy]
    rfl
  have holdsHalf : between.volume.HoldsFile between.policy.path (Text.encode "/b\n") := by
    rw [left, file]
    exact (holds.put oneTemporary oneFile).put_self _
  have permitsHalf : ∀ step, between.volume.refusal step = none := by
    rw [left]
    exact permits
  have soundHalf : between.policy.textOf (.text "/c\n") = .ok "/c\n" := by
    rw [samePolicy]
    exact soundSecond
  change half.copyTarget? (backupPath "bypass.conf" second) = some two at toTwo
  rw [← left] at toTwo ⊢
  rw [← file] at toTwo twoFile ⊢
  rcases overwrites_of_holdsFile soundHalf holdsHalf permitsHalf toTwo twoTemporary twoFile with
    ⟨again, -, ends⟩
  refine ⟨_, ⟨between, write "/c\n" second⟩, ?_, overwrites, rfl, again, rfl, ?_⟩
  · rw [← reached]
    rfl
  · rw [← ends, ← reached]
    rfl

theorem backupName_next :
    Disk.backupName "bypass.conf" { (default : Timestamp) with second := 1 } =
      "bypass.conf.00000000-000001.bak" := by
  decide +kernel

theorem isPlain_next : Path.IsPlain "bypass.conf.00000000-000001.bak" :=
  ⟨⟨by decide, by decide, by decide⟩, by decide, by decide, by decide⟩

/-- Of two writes in different seconds the first keeps what it has replaced. -/
theorem superseded_contents_are_kept_twice :
    let session := start bypassGrammar "bypass.conf" (.ofBypass (Text.encode "/a\n"))
      (Volume.wellFormed_ofBypass _)
    let next : Timestamp := { (default : Timestamp) with second := 1 }
    let events := [write "/b\n" default, write "/c\n" next]
    session.OverwritesOnly events ∧
      (session.run events).volume.at? (backupPath "bypass.conf" default) =
        some (.file (Text.encode "/a\n")) := by
  intro session next events
  have holds := Volume.holdsFile_ofBypass (Text.encode "/a\n")
  have toOne := Volume.copyTarget?_default holds.root (.inl rfl)
  have toTwo : Volume.copyTarget? (((Volume.ofBypass (Text.encode "/a\n")).put
      ["bypass.conf.00000000-000000.bak"] (.file (Text.encode "/a\n"))).put ["bypass.conf"]
        (.file (Text.encode "/b\n"))) (backupPath "bypass.conf" next) =
      some ["bypass.conf.00000000-000001.bak"] :=
    Volume.copyTarget?_bypass rfl backupName_next isPlain_next (.inl rfl)
  rcases overwrites_twice (Volume.wellFormed_ofBypass _) holds (fun _ => rfl) toOne toTwo
    (by decide +kernel) with ⟨before, after, turns, overwrites, stood, again, left, -⟩
  have linkless : (Volume.ofBypass (Text.encode "/a\n")).IsLinkless :=
    Volume.isLinkless_blank.put_file (by decide)
  have writes : session.OverwritesOnly events := by
    rw [OverwritesOnly, turns, List.forall_mem_cons, List.forall_mem_singleton]
    refine ⟨⟨default, overwrites, ?_⟩, ⟨next, again, ?_⟩⟩
    · rw [PolicyTurn.IsUnlinked, stood]
      exact linkless.not_isLink
    · rw [PolicyTurn.IsUnlinked, left]
      exact ((linkless.put_file (by decide)).put_file (by decide)).not_isLink
  have another : next.compact ≠ Timestamp.compact default := by decide +kernel
  have first : events = [] ++ write "/b\n" default :: [write "/c\n" next] := rfl
  refine ⟨writes, superseded_contents_are_kept session events writes first holds.at?_eq ?_⟩
  intro submission condition other otherMem
  cases List.mem_singleton.mp otherMem
  exact another

/-- Every write of the run succeeds and so does every copy; what the file held before the run is
held nowhere after it. -/
structure LosesContent (session : PolicySession Rule) (events : List (PolicyEvent Rule))
    (content : ByteArray) : Prop where
  overwrites : ∀ turn ∈ session.transcript events, ∃ time, turn.Overwrites time
  held : session.volume.at? session.policy.path = some (.file content)
  lost : ∀ path, (session.run events).volume.at? path ≠ some (.file content)

theorem losesContent_of_one_place {volume : Volume} {first second : Timestamp} {one : Location}
    (wellFormed : volume.WellFormed)
    (holds : volume.HoldsFile "bypass.conf" (Text.encode "/a\n"))
    (permits : ∀ step, volume.refusal step = none)
    (toOne : volume.copyTarget? (backupPath "bypass.conf" first) = some one)
    (toOneAgain : Volume.copyTarget? ((volume.put one (.file (Text.encode "/a\n"))).put
      ["bypass.conf"] (.file (Text.encode "/b\n"))) (backupPath "bypass.conf" second) = some one)
    (named : one ≠ []) (notTemporary : one ≠ [Volume.temporaryName 0])
    (notFile : one ≠ ["bypass.conf"])
    (only : ∀ place, place ≠ ["bypass.conf"] →
      volume.entry? place ≠ some (.file (Text.encode "/a\n"))) :
    (start bypassGrammar "bypass.conf" volume wellFormed).LosesContent
      [write "/b\n" first, write "/c\n" second] (Text.encode "/a\n") := by
  have apart : ∀ place ∈ [one, one],
      place ≠ [Volume.temporaryName 0] ∧ place ≠ ["bypass.conf"] := by
    simp [notTemporary, notFile]
  rcases overwrites_twice wellFormed holds permits toOne toOneAgain apart with
    ⟨before, after, turns, overwrites, -, again, -, ends⟩
  refine ⟨?_, holds.at?_eq, ?_⟩
  · intro turn turnMem
    rw [turns] at turnMem
    rcases List.mem_pair.mp turnMem with rfl | rfl
    · exact ⟨first, overwrites⟩
    · exact ⟨second, again⟩
  · apply Volume.at?_ne_of_absent
    intro place
    -- The copy of the second write went to the place of the first, and nothing else held the text.
    have later (text : String) (differs : Text.encode text ≠ Text.encode "/a\n") :
        some (Disk.Entry.file (Text.encode text)) ≠ some (.file (Text.encode "/a\n")) := by
      simpa using differs
    rw [ends]
    by_cases file : place = ["bypass.conf"]
    · simpa [file, Volume.entry?_put_self] using later "/c\n" (by decide)
    · by_cases copy : place = one
      · rw [copy] at file ⊢
        simpa [Volume.entry?_put_of_ne file, Volume.entry?_put_self named] using
          later "/b\n" (by decide)
      · simpa [Volume.entry?_put_of_ne, file, copy] using only place file

/-- A disk on which the name of the backup of the next second is a link to that of the first. -/
def linkedBackups : Volume :=
  (Volume.ofBypass (Text.encode "/a\n")).put ["bypass.conf.00000000-000001.bak"]
    (.link "bypass.conf.00000000-000000.bak")

theorem wellFormed_linkedBackups : linkedBackups.WellFormed := by
  have root : Volume.entry? (Volume.ofBypass (Text.encode "/a\n")) [] = some .directory := rfl
  exact (Volume.wellFormed_ofBypass _).put root nofun

/-- Two writes in one second lose what the first has replaced; so do two writes in different
seconds if the backup of the second is a link to that of the first. -/
theorem superseded_content_is_lost :
    let next : Timestamp := { (default : Timestamp) with second := 1 }
    (start bypassGrammar "bypass.conf" (.ofBypass (Text.encode "/a\n"))
        (Volume.wellFormed_ofBypass _)).LosesContent
          [write "/b\n" default, write "/c\n" default] (Text.encode "/a\n") ∧
      (start bypassGrammar "bypass.conf" linkedBackups wellFormed_linkedBackups).LosesContent
        [write "/b\n" default, write "/c\n" next] (Text.encode "/a\n") := by
  intro next
  have root : Volume.blank.entry? [] = some .directory := rfl
  have elsewhere (place : Location) (notFile : place ≠ ["bypass.conf"]) :
      Volume.entry? (Volume.ofBypass (Text.encode "/a\n")) place ≠
        some (.file (Text.encode "/a\n")) := by
    rw [Volume.ofBypass, Volume.entry?_put_of_ne notFile]
    simp only [Volume.blank, Volume.entry?, List.lookup_nil]
    split <;> simp
  constructor
  · have holds := Volume.holdsFile_ofBypass (Text.encode "/a\n")
    have toOne := Volume.copyTarget?_default holds.root (.inl rfl)
    exact losesContent_of_one_place _ holds (fun _ => rfl) toOne
      (Volume.copyTarget?_default rfl (.inr ⟨_, rfl⟩)) (by decide) (by decide +kernel) (by decide)
      elsewhere
  · have holds : linkedBackups.HoldsFile "bypass.conf" (Text.encode "/a\n") :=
      (Volume.holdsFile_ofBypass _).put (by decide +kernel) (by decide)
    have toOne := Volume.copyTarget?_default holds.root (.inl rfl)
    refine losesContent_of_one_place _ holds (fun _ => rfl) toOne ?_ (by decide)
      (by decide +kernel) (by decide) ?_
    · rw [Volume.isPlain_bypass.backupPath_eq, backupName_next]
      exact Volume.copyTarget?_of_link rfl isPlain_next rfl Volume.isPlain_backup rfl
    · intro place notFile
      by_cases link : place = ["bypass.conf.00000000-000001.bak"]
      · simp [link, linkedBackups, Volume.entry?_put_self]
      · simpa [linkedBackups, Volume.entry?_put_of_ne link] using elsewhere place notFile

end PolicySession

end Gatehouse
