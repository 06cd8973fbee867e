import Gatehouse.Proofs.Policy.Session

/-!
# No lost updates

A client that names a fingerprint replaces the bytes that have it and no others.
The fingerprint is a digest, so the theory says what it can say without a word
on digests, and relies on them only where it goes from equal fingerprints to
equal bytes: there the digest is to tell the contents of one run apart, of which
there are finitely many.

The other direction needs the run.  A fingerprint that a commit has answered
with is that of the file until a commit or another writer changes the file, so
the next commit that names it is not turned down.
-/

namespace Gatehouse

open Disk (Timestamp)

theorem requiredFingerprint_fingerprint (bytes : ByteArray) :
    requiredFingerprint (some (fingerprint bytes)) = some (fingerprint bytes) := by
  have front : "W/\"sha256:".toList = 'W' :: "/\"sha256:".toList := rfl
  have shape : (fingerprint bytes).toList =
      'W' :: ("/\"sha256:".toList ++ (hexText (Sha256.digest bytes)).toList) ++ ['"'] := by
    rw [fingerprint, String.toList_append, String.toList_append, front]
    rfl
  have named : fingerprint bytes ≠ "" := by
    intro empty
    rw [empty] at shape
    cases shape
  have trimmed : Text.trim (fingerprint bytes) = fingerprint bytes := by
    have starts : ∀ first ∈ (fingerprint bytes).toList.head?, Text.isBlank first = false := by
      rw [shape]
      rintro first ⟨⟩
      rfl
    have ends : ∀ last ∈ (fingerprint bytes).toList.getLast?, Text.isBlank last = false := by
      rw [shape, List.getLast?_concat]
      rintro last ⟨⟩
      rfl
    rw [Text.trim, Text.trimChars_eq_self starts ends, String.ofList_toList]
  rw [requiredFingerprint, Option.map_some, trimmed, Option.filter_some,
    if_pos (decide_eq_true named)]

theorem meetsPrecondition_iff {current : ByteArray} {condition : Option String} {token : String}
    (required : requiredFingerprint condition = some token) :
    meetsPrecondition current condition ↔ fingerprint current = token := by
  rw [meetsPrecondition, required, Option.all_some, beq_iff_eq]
  exact eq_comm

variable [PatternEngine]

namespace PolicyTurn

variable {Rule : Type} {turn : PolicyTurn Rule} {token : String} {submission : Submission Rule}
  {condition : Option String} {time : Timestamp}

/-- The fingerprint that an answer carries. -/
def token? (turn : PolicyTurn Rule) : Option String :=
  match turn.answer with
  | .read (.ok raw) => some raw.fingerprint
  | .submitted (.ok (.committed token _)) => some token
  | .submitted (.ok (.conflict current)) => some current
  | _ => none

/-- The event is a commit that names a fingerprint. -/
def Requires (turn : PolicyTurn Rule) (token : String) : Prop :=
  ∃ submission condition time, turn.event = .submit submission condition time ∧
    requiredFingerprint condition = some token

/-- The event is a commit on a disk where even one that fails may change the file. -/
def Endangers (turn : PolicyTurn Rule) : Prop :=
  ∃ submission condition time, turn.event = .submit submission condition time ∧
    turn.before.volume.IsExposed turn.before.policy.path time

/-- A commit or another writer has changed the file, or a commit that fails where the file is
exposed to it. -/
def Disturbs (turn : PolicyTurn Rule) : Prop :=
  (turn.Commits ∨ turn.Endangers ∨ ∃ volume wellFormed, turn.event = .change volume wellFormed) ∧
    turn.after.bytes ≠ turn.before.bytes

theorem bytes_of_commits {rules : Nat} (writes : turn.event = .submit submission condition time)
    (commits : turn.answer = .submitted (.ok (.committed token rules))) :
    ∃ bytes, turn.after.bytes = .ok bytes ∧ fingerprint bytes = token := by
  rcases exists_replaces writes commits with ⟨text, replaces, rfl, path⟩
  refine ⟨Text.encode text, ?_, rfl⟩
  rw [PolicySession.bytes, PolicyFile.bytes, path]
  exact replaces.bytes

theorem bytes_of_token? (given : turn.token? = some token) :
    ∃ bytes, turn.after.bytes = .ok bytes ∧ fingerprint bytes = token := by
  cases happened : turn.event with
  | submit submission condition time =>
      rcases submitted_of_submit happened with ⟨after, submitted, answered, policy, volume, -⟩
      rw [token?, answered] at given
      cases submitted with
      | conflict sound read differs =>
          cases given
          rw [PolicySession.bytes, policy, volume]
          exact ⟨_, read, rfl⟩
      | committed =>
          cases given
          exact bytes_of_commits happened answered
      | unloaded =>
          cases given
          exact bytes_of_commits happened answered
      | _ => cases given
  | read =>
      rcases turn with ⟨before, event⟩
      cases happened
      simp only [token?, answer, PolicySession.step, PolicyFile.readRaw] at given
      cases read : before.policy.bytes before.volume with
      | error error =>
          rw [read] at given
          cases given
      | ok bytes =>
          rw [read] at given
          cases given
          exact ⟨bytes, read, rfl⟩
  | _ =>
      rcases turn with ⟨before, event⟩
      cases happened
      cases given

theorem bytes_of_requires (requires : turn.Requires token) (commits : turn.Commits) :
    ∃ bytes, turn.before.bytes = .ok bytes ∧ fingerprint bytes = token := by
  rcases requires with ⟨submission, condition, time, writes, required⟩
  rcases commits with ⟨name, rules, committed⟩
  rcases exists_replaces writes committed with ⟨text, replaces, -, -⟩
  rcases replaces.passed with ⟨bytes, read, meets⟩
  exact ⟨bytes, read, (meetsPrecondition_iff required).mp meets⟩

theorem conflict_of_ne {text : String} {bytes : ByteArray}
    (writes : turn.event = .submit submission condition time)
    (required : requiredFingerprint condition = some token)
    (sound : turn.before.policy.textOf submission = .ok text)
    (read : turn.before.bytes = .ok bytes) (differs : fingerprint bytes ≠ token) :
    turn.answer = .submitted (.ok (.conflict (fingerprint bytes))) ∧
      turn.after = turn.before := by
  rcases submitted_of_submit writes with ⟨after, submitted, answered, policy, volume, held⟩
  have unmet : ∀ {current : ByteArray},
      turn.before.policy.bytes turn.before.volume = .ok current →
        ¬meetsPrecondition current condition := by
    intro current now
    rw [PolicySession.bytes, now] at read
    cases read
    rwa [meetsPrecondition_iff required]
  cases submitted with
  | invalid unsound =>
      rw [sound] at unsound
      cases unsound
  | unreadable _ fails =>
      rw [PolicySession.bytes, fails] at read
      cases read
  | conflict _ now =>
      rw [PolicySession.bytes, now] at read
      cases read
      exact ⟨answered, PolicySession.ext policy volume held⟩
  | unwritten _ now meets => exact absurd meets (unmet now)
  | committed _ replaces =>
      rcases replaces.passed with ⟨_, now, meets⟩
      exact absurd meets (unmet now)
  | unloaded _ replaces =>
      rcases replaces.passed with ⟨_, now, meets⟩
      exact absurd meets (unmet now)

/-- A sound commit that names the fingerprint of the file goes through if it can be written. -/
theorem commits_of_written {text : String} {bytes : ByteArray}
    (writes : turn.event = .submit submission condition time)
    (required : requiredFingerprint condition = some (fingerprint bytes))
    (sound : turn.before.policy.textOf submission = .ok text)
    (read : turn.before.bytes = .ok bytes)
    (succeeds : (turn.before.volume.replaceWithBackup turn.before.policy.path (Text.encode text)
      time).1 = .ok ()) : turn.Commits := by
  rcases submitted_of_submit writes with ⟨after, submitted, answered, -⟩
  rw [PolicySession.bytes] at read
  cases submitted with
  | invalid unsound =>
      rw [sound] at unsound
      cases unsound
  | unreadable _ fails =>
      rw [fails] at read
      cases read
  | conflict _ now differs =>
      rw [now] at read
      cases read
      exact absurd ((meetsPrecondition_iff required).mpr rfl) differs
  | unwritten again _ _ fails =>
      rw [again] at sound
      cases sound
      rw [fails] at succeeds
      cases succeeds
  | committed => exact ⟨_, _, answered⟩
  | unloaded => exact ⟨_, _, answered⟩

/-- Only commits and other writers change the file, and no commit that fails where the file is
safe from it. -/
theorem bytes_of_undisturbed (undisturbed : ¬turn.Disturbs) :
    turn.after.bytes = turn.before.bytes := by
  have same : (turn.Commits ∨ turn.Endangers ∨
      ∃ volume wellFormed, turn.event = .change volume wellFormed) →
        turn.after.bytes = turn.before.bytes := by
    intro writes
    exact Classical.not_not.mp fun differs => undisturbed ⟨writes, differs⟩
  cases happened : turn.event with
  | submit submission condition time =>
      rcases submitted_of_submit happened with ⟨after, submitted, answered, policy, volume, -⟩
      cases submitted with
      | committed => exact same (.inl ⟨_, _, answered⟩)
      | unloaded => exact same (.inl ⟨_, _, answered⟩)
      | unwritten sound read meets fails abandoned =>
          by_cases exposed : turn.before.volume.IsExposed turn.before.policy.path time
          · exact same (.inr (.inl ⟨submission, condition, time, happened, exposed⟩))
          · rw [PolicySession.bytes, policy, volume]
            exact PolicyFile.bytes_congr (abandoned.read_eq turn.before.wellFormed exposed .look)
      | _ =>
          rw [PolicySession.bytes, policy, volume]
          rfl
  | change volume wellFormed => exact same (.inr (.inr ⟨volume, wellFormed, happened⟩))
  | reload =>
      rcases turn with ⟨before, event⟩
      cases happened
      simp only [after, PolicySession.step, PolicySession.bytes, PolicyFile.reload]
      cases PolicyFile.load before.policy.grammar before.volume before.policy.path <;> rfl
  | _ =>
      rcases turn with ⟨before, event⟩
      cases happened
      rfl

end PolicyTurn

namespace PolicySession

variable {Rule : Type} {session : PolicySession Rule} {events : List (PolicyEvent Rule)}

theorem bytes_run_of_undisturbed
    (undisturbed : ∀ turn ∈ session.transcript events, ¬turn.Disturbs) :
    (session.run events).bytes = session.bytes := by
  induction events generalizing session with
  | nil => rfl
  | cons event rest ih =>
      rw [transcript, List.forall_mem_cons] at undisturbed
      rw [run, ih undisturbed.2]
      exact PolicyTurn.bytes_of_undisturbed undisturbed.1

/-- What the file holds in the turns of a run. -/
def contents (turns : List (PolicyTurn Rule)) : List ByteArray :=
  turns.flatMap fun turn => turn.before.bytes.toOption.toList ++ turn.after.bytes.toOption.toList

/-- What clients who name fingerprints can rely on in a run. -/
structure GuardsUpdates (turns : List (PolicyTurn Rule)) : Prop where
  /-- A commit that names a fingerprint goes through only if it is that of the file. -/
  exact : ∀ turn ∈ turns, ∀ token, turn.Requires token → turn.Commits →
    ∃ bytes, turn.before.bytes = .ok bytes ∧ fingerprint bytes = token
  /-- A commit that names a fingerprint from an earlier answer goes through only if the file
  holds what that answer described. -/
  described : (∀ first ∈ contents turns, ∀ second ∈ contents turns,
      fingerprint first = fingerprint second → first = second) →
    ∀ giver taker, [giver, taker].Sublist turns → ∀ token, giver.token? = some token →
      taker.Requires token → taker.Commits →
        ∃ bytes, giver.after.bytes = .ok bytes ∧ taker.before.bytes = .ok bytes
  /-- A sound commit that names another fingerprint than that of a file that can be read is
  told that of the file, and nothing changes. -/
  turnedDown : ∀ turn ∈ turns, ∀ submission condition time token text bytes,
    turn.event = .submit submission condition time →
    requiredFingerprint condition = some token →
    turn.before.policy.textOf submission = .ok text → turn.before.bytes = .ok bytes →
    fingerprint bytes ≠ token →
      turn.answer = .submitted (.ok (.conflict (fingerprint bytes))) ∧ turn.after = turn.before
  /-- The fingerprint of a commit is accepted from the next sound commit, if nothing disturbs
  the file in between and it can be written. -/
  accepted : ∀ earlier giver between taker later,
    turns = earlier ++ giver :: (between ++ taker :: later) →
    ∀ token rules, giver.answer = .submitted (.ok (.committed token rules)) →
    (∀ turn ∈ between, ¬turn.Disturbs) →
    ∀ submission time text, taker.event = .submit submission (some token) time →
    taker.before.policy.textOf submission = .ok text →
    (taker.before.volume.replaceWithBackup taker.before.policy.path (Text.encode text) time).1 =
      .ok () →
      taker.Commits

theorem mem_contents {turns : List (PolicyTurn Rule)} {turn : PolicyTurn Rule}
    {bytes : ByteArray} (turnMem : turn ∈ turns)
    (holds : turn.before.bytes = .ok bytes ∨ turn.after.bytes = .ok bytes) :
    bytes ∈ contents turns := by
  refine List.mem_flatMap.mpr ⟨turn, turnMem, List.mem_append.mpr ?_⟩
  exact holds.imp (fun holds => by simp [holds, Except.toOption])
    fun holds => by simp [holds, Except.toOption]

theorem commits_of_accepted {earlier between later : List (PolicyTurn Rule)}
    {giver taker : PolicyTurn Rule} {token : String} {rules : Nat} {submission : Submission Rule}
    {time : Timestamp} {text : String}
    (whole : session.transcript events = earlier ++ giver :: (between ++ taker :: later))
    (given : giver.answer = .submitted (.ok (.committed token rules)))
    (undisturbed : ∀ turn ∈ between, ¬turn.Disturbs)
    (writes : taker.event = .submit submission (some token) time)
    (sound : taker.before.policy.textOf submission = .ok text)
    (succeeds : (taker.before.volume.replaceWithBackup taker.before.policy.path (Text.encode text)
      time).1 = .ok ()) : taker.Commits := by
  rcases exists_of_transcript_eq_append whole with ⟨start, behind, -, fromGiver⟩
  rcases transcript_eq_cons fromGiver with ⟨-, onward, afterGiver⟩
  rcases exists_of_transcript_eq_append afterGiver with ⟨middle, final, rfl, fromTaker⟩
  rcases transcript_eq_cons fromTaker with ⟨reached, -⟩
  -- The token names the bytes that the giver left, and the stretch in between keeps them.
  have named : giver.token? = some token := by rw [PolicyTurn.token?, given]
  rcases PolicyTurn.bytes_of_token? named with ⟨bytes, left, rfl⟩
  refine PolicyTurn.commits_of_written writes (requiredFingerprint_fingerprint bytes) sound ?_
    succeeds
  rw [reached, bytes_run_of_undisturbed undisturbed, left]

/-- No update is lost, whoever sends what in which order. -/
theorem no_lost_update (session : PolicySession Rule) (events : List (PolicyEvent Rule)) :
    GuardsUpdates (session.transcript events) := by
  constructor
  case exact =>
      intro turn _ token requires commits
      exact PolicyTurn.bytes_of_requires requires commits
  case described =>
      intro distinct giver taker order token given requires commits
      rcases PolicyTurn.bytes_of_token? given with ⟨described, left, named⟩
      rcases PolicyTurn.bytes_of_requires requires commits with ⟨current, met, required⟩
      have giverMem := order.subset (List.mem_cons_self ..)
      have takerMem := order.subset (List.mem_cons_of_mem _ (List.mem_cons_self ..))
      have same : described = current :=
        distinct _ (mem_contents giverMem (.inr left)) _ (mem_contents takerMem (.inl met))
          (named.trans required.symm)
      exact ⟨described, left, by rw [met, same]⟩
  case turnedDown =>
      intro turn _ submission condition time token text bytes writes required sound read differs
      exact PolicyTurn.conflict_of_ne writes required sound read differs
  case accepted =>
      intro earlier giver between taker later whole token rules given undisturbed submission time
        text writes sound succeeds
      exact commits_of_accepted whole given undisturbed writes sound succeeds

end PolicySession

end Gatehouse
