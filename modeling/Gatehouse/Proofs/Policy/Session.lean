import Gatehouse.Proofs.Policy.Commit

/-!
# Sessions

A session is a policy on a disk, used by any number of clients one operation
after another, while other writers change the disk in between as they like.  A
client is whoever sends the next event, so a run is a list of events, and what
the clients learn is in the answers.

Statements about runs are about their turns.  A turn is an event in the state
that it meets; what it answers and what it leaves follow from these.
-/

namespace Gatehouse

open Disk (Path Timestamp Volume)

/-- A policy on a disk, and what its clients keep. -/
@[ext]
structure PolicySession (Rule : Type) where
  policy : PolicyFile Rule
  volume : Volume
  wellFormed : volume.WellFormed
  /-- The rulesets that clients took out, the first taken first. -/
  held : List (Option (Ruleset Rule))

variable [PatternEngine]

/-- What can happen to a policy. -/
inductive PolicyEvent (Rule : Type) : Type 1 where
  /-- A client reads the file. -/
  | read
  /-- A client has a text checked. -/
  | check (content : String)
  /-- The file is loaded. -/
  | reload
  /-- A client commits. -/
  | submit (submission : Submission Rule) (condition : Option String) (time : Timestamp)
  /-- A client takes the ruleset in force. -/
  | take
  /-- Another writer changes the disk, or it refuses other steps than before. -/
  | change (volume : Volume) (wellFormed : volume.WellFormed)

/-- What a client learns. -/
inductive PolicyAnswer where
  | read (answer : Except PolicyError RawPolicy)
  | checked (report : Report)
  | reloaded (answer : Except PolicyError Nat)
  | submitted (answer : Except PolicyError CommitOutcome)
  | silent

namespace PolicySession

variable {Rule : Type}

/-- A session in which nothing has been loaded. -/
def start (grammar : Grammar Rule) (path : Path) (volume : Volume)
    (wellFormed : volume.WellFormed) : PolicySession Rule :=
  ⟨.new grammar path, volume, wellFormed, []⟩

/-- The bytes of the file. -/
def bytes (session : PolicySession Rule) : Except PolicyError ByteArray :=
  session.policy.bytes session.volume

/-- Answers an event and tells the state after it. -/
def step (session : PolicySession Rule) : PolicyEvent Rule → PolicyAnswer × PolicySession Rule
  | .read => (.read (session.policy.readRaw session.volume), session)
  | .check content => (.checked (session.policy.validate content), session)
  | .reload =>
      let after := session.policy.reload session.volume
      (.reloaded after.1, { session with policy := after.2 })
  | .submit submission condition time =>
      let after := session.policy.submit session.volume time submission condition
      (.submitted after.1,
        { session with
          policy := after.2.1
          volume := after.2.2
          wellFormed :=
            (PolicyFile.submitted_submit session.wellFormed session.policy time submission
              condition).wellFormed session.wellFormed })
  | .take => (.silent, { session with held := session.held ++ [session.policy.published] })
  | .change volume wellFormed =>
      (.silent, { session with volume := volume, wellFormed := wellFormed })

/-- The state after a list of events. -/
def run (session : PolicySession Rule) : List (PolicyEvent Rule) → PolicySession Rule
  | [] => session
  | event :: rest => (session.step event).2.run rest

end PolicySession

/-- An event in the state that it meets. -/
structure PolicyTurn (Rule : Type) where
  before : PolicySession Rule
  event : PolicyEvent Rule

namespace PolicyTurn

variable {Rule : Type}

/-- What the client learns. -/
def answer (turn : PolicyTurn Rule) : PolicyAnswer :=
  (turn.before.step turn.event).1

/-- The state that the event leaves. -/
def after (turn : PolicyTurn Rule) : PolicySession Rule :=
  (turn.before.step turn.event).2

/-- The event is a commit that answers with the outcome. -/
def Commits (turn : PolicyTurn Rule) : Prop :=
  ∃ token rules, turn.answer = .submitted (.ok (.committed token rules))

/-- What a commit comes to in a session. -/
theorem submitted_of_submit {turn : PolicyTurn Rule} {submission : Submission Rule}
    {condition : Option String} {time : Timestamp}
    (writes : turn.event = .submit submission condition time) :
    ∃ after, turn.before.policy.Submitted turn.before.volume time submission condition after ∧
      turn.answer = .submitted after.1 ∧ turn.after.policy = after.2.1 ∧
      turn.after.volume = after.2.2 ∧ turn.after.held = turn.before.held := by
  rcases turn with ⟨before, event⟩
  cases writes
  exact ⟨_, PolicyFile.submitted_submit before.wellFormed before.policy time submission condition,
    rfl, rfl, rfl, rfl⟩

/-- A commit that answers so has replaced the file, whether it could be loaded or not. -/
theorem exists_replaces {turn : PolicyTurn Rule} {submission : Submission Rule}
    {condition : Option String} {time : Timestamp} {token : String} {rules : Nat}
    (writes : turn.event = .submit submission condition time)
    (commits : turn.answer = .submitted (.ok (.committed token rules))) :
    ∃ text, turn.before.policy.Replaces turn.before.volume time condition text
        turn.after.volume ∧
      token = fingerprint (Text.encode text) ∧
      turn.after.policy.path = turn.before.policy.path := by
  rcases submitted_of_submit writes with ⟨after, submitted, answered, policy, volume, -⟩
  rw [answered] at commits
  rw [policy, volume]
  cases submitted with
  | committed sound replaces loads =>
      cases commits
      exact ⟨_, replaces, rfl, rfl⟩
  | unloaded sound replaces refused =>
      cases commits
      exact ⟨_, replaces, rfl, rfl⟩
  | _ => cases commits

end PolicyTurn

namespace PolicySession

variable {Rule : Type} {session : PolicySession Rule} {events : List (PolicyEvent Rule)}

/-- The turns of a run. -/
def transcript (session : PolicySession Rule) : List (PolicyEvent Rule) → List (PolicyTurn Rule)
  | [] => []
  | event :: rest => ⟨session, event⟩ :: (session.step event).2.transcript rest

theorem run_append (first second : List (PolicyEvent Rule)) :
    session.run (first ++ second) = (session.run first).run second := by
  induction first generalizing session with
  | nil => rfl
  | cons event rest ih => exact ih

theorem transcript_append (first second : List (PolicyEvent Rule)) :
    session.transcript (first ++ second) =
      session.transcript first ++ (session.run first).transcript second := by
  induction first generalizing session with
  | nil => rfl
  | cons event rest ih => simp only [List.cons_append, transcript, run, ih]

/-- A stretch of a run is a run of its own, from where the run had come. -/
theorem exists_of_transcript_eq_append {first second : List (PolicyTurn Rule)}
    (whole : session.transcript events = first ++ second) :
    ∃ earlier later, session.transcript earlier = first ∧
      (session.run earlier).transcript later = second := by
  induction first generalizing session events with
  | nil => exact ⟨[], events, rfl, whole⟩
  | cons turn turns ih =>
      rcases events with _ | ⟨event, rest⟩
      · cases whole
      · simp only [transcript, List.cons_append, List.cons.injEq] at whole
        rcases whole with ⟨rfl, whole⟩
        rcases ih whole with ⟨earlier, later, before, behind⟩
        exact ⟨event :: earlier, later, by rw [transcript, before], behind⟩

/-- What comes behind a turn starts from what the turn leaves. -/
theorem transcript_eq_cons {turn : PolicyTurn Rule} {turns : List (PolicyTurn Rule)}
    (whole : session.transcript events = turn :: turns) :
    turn.before = session ∧ ∃ rest, turn.after.transcript rest = turns := by
  rcases events with _ | ⟨event, rest⟩
  · cases whole
  · simp only [transcript, List.cons.injEq] at whole
    rcases whole with ⟨rfl, rfl⟩
    exact ⟨rfl, rest, rfl⟩

end PolicySession

end Gatehouse
