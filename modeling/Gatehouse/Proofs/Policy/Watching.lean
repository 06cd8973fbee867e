import Gatehouse.Bypass
import Gatehouse.Policy.Live
import Gatehouse.Proofs.Policy.Commit

/-!
# No change is lost

A watcher takes up every change of its file, however changes, notices and reloads
come in each other's way.  A change sends a notice, a notice that is delivered
waits as a message, a message that is taken sets the deadline, and a deadline that
passes starts a reload.  Until that reload reads the file one of these is there,
and further changes only add to them.

So when none of them is there and no reload runs, nothing has changed since the
file was read last, and the policy is what this reading has made of it.  Closing
is left out, and so are reloads that break off before they have read the file.
-/

namespace Gatehouse

open Disk (Volume)

namespace LivePolicy

variable {Rule : Type} {initial before : PolicyFile Rule} {volume : Volume}
  {first live next last : LivePolicy Rule} {event : LiveEvent} {events : List LiveEvent}

/-- What a load of the file would answer now. -/
def reading (live : LivePolicy Rule) : Except PolicyError (Ruleset Rule) :=
  PolicyFile.load live.watched.policy.grammar live.volume live.watched.policy.path

/-- The event closes nothing, and it ends no reload that has not read the file. -/
def Undisturbed (live : LivePolicy Rule) : LiveEvent → Prop
  | .watcher .close => False
  | .watcher .stop => False
  | .watcher .finish => live.watched.loaded.isSome
  | _ => True

/-- A run in which nothing is closed and every reload reads the file before it ends. -/
inductive Runs : LivePolicy Rule → List LiveEvent → LivePolicy Rule → Prop
  | nil {live : LivePolicy Rule} : Runs live [] live
  | cons {live next last : LivePolicy Rule} {event : LiveEvent} {events : List LiveEvent}
      (undisturbed : live.Undisturbed event) (steps : live.step event = some next)
      (rest : Runs next events last) : Runs live (event :: events) last

theorem runs_concat_iff :
    Runs first (events ++ [event]) last ↔
      ∃ live, Runs first events live ∧ live.Undisturbed event ∧ live.step event = some last := by
  induction events generalizing first with
  | nil =>
      constructor
      · rintro (_ | ⟨undisturbed, steps, rest⟩)
        cases rest
        exact ⟨first, .nil, undisturbed, steps⟩
      · rintro ⟨live, _ | _, undisturbed, steps⟩
        exact .cons undisturbed steps .nil
  | cons earlier rest ih =>
      constructor
      · rintro (_ | ⟨undisturbed, steps, behind⟩)
        rcases ih.mp behind with ⟨live, reached, final⟩
        exact ⟨live, .cons undisturbed steps reached, final⟩
      · rintro ⟨live, _ | ⟨undisturbed, steps, reached⟩, final⟩
        exact .cons undisturbed steps (ih.mpr ⟨live, reached, final⟩)

/-- What an undisturbed event has found and what it leaves. -/
inductive Advances (live : LivePolicy Rule) : LiveEvent → LivePolicy Rule → Prop
  | change (volume : Volume) :
      Advances live (.change volume) { live with volume := volume, underWay := live.underWay + 1 }
  | notice (sent : live.underWay ≠ 0) :
      Advances live (.watcher .notice)
        { live with
          watched.watcher.queued := live.watched.watcher.queued + 1
          underWay := live.underWay - 1 }
  | receive (waits : 0 < live.watched.watcher.queued) :
      Advances live (.watcher .receive)
        { live with
          watched.watcher.queued := live.watched.watcher.queued - 1
          watched.watcher.armed := true }
  | fire (idle : live.watched.watcher.running = false) (armed : live.watched.watcher.armed) :
      Advances live (.watcher .fire)
        { live with watched.watcher.armed := false, watched.watcher.running := true }
  | read (runs : live.watched.watcher.running) :
      Advances live (.watcher .read) { live with watched.loaded := some live.reading }
  | finish {loaded : Except PolicyError (Ruleset Rule)} (has : live.watched.loaded = some loaded) :
      Advances live (.watcher .finish)
        { live with
          watched.watcher.running := false
          watched.policy := (live.watched.policy.settle loaded).2
          watched.loaded := none }

theorem advances_of_step (undisturbed : live.Undisturbed event)
    (steps : live.step event = some next) : live.Advances event next := by
  cases event with
  | change volume =>
      cases steps
      exact .change volume
  | watcher event =>
      cases event with
      | notice =>
          simp only [step] at steps
          split at steps
          case isTrue => cases steps
          case isFalse sent =>
            rcases Option.map_eq_some_iff.mp steps with ⟨watched, moves, rfl⟩
            rcases Option.map_eq_some_iff.mp moves with ⟨watcher, turns, rfl⟩
            rcases Option.ite_none_left_eq_some.mp turns with ⟨-, made⟩
            cases made
            exact .notice sent
      | receive =>
          rcases Option.map_eq_some_iff.mp steps with ⟨watched, moves, rfl⟩
          rcases Option.map_eq_some_iff.mp moves with ⟨watcher, turns, rfl⟩
          rcases Option.ite_none_right_eq_some.mp turns with ⟨waits, made⟩
          cases made
          simp only [Bool.and_eq_true, decide_eq_true_eq] at waits
          exact .receive waits.2
      | fire =>
          rcases Option.map_eq_some_iff.mp steps with ⟨watched, moves, rfl⟩
          rcases Option.map_eq_some_iff.mp moves with ⟨watcher, turns, rfl⟩
          rcases Option.ite_none_right_eq_some.mp turns with ⟨waits, made⟩
          cases made
          simp only [Watcher.isWaiting, Bool.and_eq_true, Bool.not_eq_true'] at waits
          exact .fire waits.1.1.1 waits.2
      | read =>
          rcases Option.map_eq_some_iff.mp steps with ⟨watched, moves, rfl⟩
          rcases Option.map_eq_some_iff.mp moves with ⟨watcher, turns, rfl⟩
          rcases Option.ite_none_right_eq_some.mp turns with ⟨runs, made⟩
          cases made
          exact .read runs
      | finish =>
          rcases Option.isSome_iff_exists.mp undisturbed with ⟨loaded, has⟩
          rcases Option.map_eq_some_iff.mp steps with ⟨watched, moves, rfl⟩
          rcases Option.map_eq_some_iff.mp moves with ⟨watcher, turns, rfl⟩
          rcases Option.ite_none_right_eq_some.mp turns with ⟨runs, made⟩
          cases made
          rw [has]
          exact .finish has
      | close => exact undisturbed.elim
      | stop => exact undisturbed.elim

/-- The volume that was read last and the policy of that moment: the initial load has read it,
or the latest reading of a reload. -/
inductive ReadLast (initial : PolicyFile Rule) (first : LivePolicy Rule)
    (events : List LiveEvent) : PolicyFile Rule → Volume → Prop
  | initially (unread : .watcher .read ∉ events) :
      ReadLast initial first events initial first.volume
  | later {earlier later : List LiveEvent} {reading : LivePolicy Rule}
      (whole : events = earlier ++ .watcher .read :: later)
      (reached : first.run earlier = some reading) (unread : .watcher .read ∉ later) :
      ReadLast initial first events reading.watched.policy reading.volume

theorem ReadLast.concat (last : ReadLast initial first events before volume)
    (other : event ≠ .watcher .read) :
    ReadLast initial first (events ++ [event]) before volume := by
  cases last with
  | initially unread =>
      exact .initially (by simp [unread, other.symm])
  | @later earlier later reading whole reached unread =>
      have longer : events ++ [event] = earlier ++ .watcher .read :: (later ++ [event]) := by
        rw [whole, List.append_assoc, List.cons_append]
      exact .later longer reached (by simp [unread, other.symm])

theorem run_of_runs (runs : Runs first events last) : first.run events = some last := by
  induction runs with
  | nil => rfl
  | cons _ steps _ ih => simpa [run, steps] using ih

/-- A reading of the file is still to come. -/
def IsDue (live : LivePolicy Rule) : Prop :=
  0 < live.underWay ∨ 0 < live.watched.watcher.queued ∨ live.watched.watcher.armed ∨
    live.watched.watcher.running ∧ live.watched.loaded = none

/-- The policy as it is once the running reload has ended. -/
def settled (live : LivePolicy Rule) : PolicyFile Rule :=
  match live.watched.loaded with
  | some loaded => (live.watched.policy.settle loaded).2
  | none => live.watched.policy

/-- Nothing is lost so far: only a running reload has something in hand, and unless a reading of
the file is still to come, the file is as the last one has found it. -/
structure NothingLost (initial : PolicyFile Rule) (first : LivePolicy Rule)
    (events : List LiveEvent) (live : LivePolicy Rule) : Prop where
  inHand : live.watched.loaded.isSome → live.watched.watcher.running
  takenUp : ¬live.IsDue → ∃ before, ReadLast initial first events before live.volume ∧
    live.settled = (before.reload live.volume).2

theorem nothingLost_start (target : WatchTarget) :
    NothingLost initial (start (initial.reload volume).2 target volume) []
      (start (initial.reload volume).2 target volume) :=
  ⟨nofun, fun _ => ⟨initial, .initially List.not_mem_nil, rfl⟩⟩

theorem NothingLost.advances (kept : NothingLost initial first events live)
    (reached : first.run events = some live) (advances : live.Advances event next) :
    NothingLost initial first (events ++ [event]) next := by
  cases advances with
  | change volume => exact ⟨kept.inHand, fun rests => absurd (.inl (Nat.succ_pos _)) rests⟩
  | notice sent => exact ⟨kept.inHand, fun rests => absurd (.inr (.inl (Nat.succ_pos _))) rests⟩
  | receive waits => exact ⟨kept.inHand, fun rests => absurd (.inr (.inr (.inl rfl))) rests⟩
  | fire idle armed =>
      have empty : live.watched.loaded = none := by
        simpa [idle] using kept.inHand
      exact ⟨fun _ => rfl, fun rests => absurd (.inr (.inr (.inr ⟨rfl, empty⟩))) rests⟩
  | read runs =>
      refine ⟨fun _ => runs, fun _ => ⟨live.watched.policy, ?_, rfl⟩⟩
      exact .later rfl reached List.not_mem_nil
  | @finish loaded has =>
      refine ⟨nofun, fun rests => ?_⟩
      -- The reload that ends has read the file, so what was not due stays so.
      have rested : ¬live.IsDue := by
        simpa [IsDue, has] using rests
      rcases kept.takenUp rested with ⟨before, last, settled⟩
      refine ⟨before, last.concat nofun, ?_⟩
      simpa [LivePolicy.settled, has] using settled

theorem nothingLost_of_runs (target : WatchTarget)
    (runs : Runs (start (initial.reload volume).2 target volume) events live) :
    NothingLost initial (start (initial.reload volume).2 target volume) events live := by
  induction events using List.reverseRecOn generalizing live with
  | nil =>
      cases runs
      exact nothingLost_start target
  | append_singleton events event ih =>
      rcases runs_concat_iff.mp runs with ⟨before, runs, undisturbed, steps⟩
      exact (ih runs).advances (run_of_runs runs) (advances_of_step undisturbed steps)

/-- The policy is what the last load of the file has made of it. -/
structure IsReloaded (live : LivePolicy Rule) (before : PolicyFile Rule) : Prop where
  settled : live.watched.policy = (before.reload live.volume).2
  /-- A file that holds a text is in force. -/
  published {bytes : ByteArray} {text : String}
    (read : live.volume.read live.watched.policy.path = .ok bytes)
    (decoded : Text.decode? bytes = some text) :
    live.watched.policy.published = some (live.watched.policy.grammar.parse text)
  /-- Otherwise the load has failed, and the rules from before it are in force. -/
  kept {error : PolicyError} (fails : live.reading = .error error) :
    live.watched.policy.published = before.published ∧
      live.watched.policy.failureCounter = before.failureCounter + 1

theorem isReloaded_of_eq (settled : live.watched.policy = (before.reload live.volume).2) :
    live.IsReloaded before := by
  have grammar : live.watched.policy.grammar = before.grammar := by
    rw [settled, PolicyFile.reload, PolicyFile.grammar_settle]
  have path : live.watched.policy.path = before.path := by
    rw [settled, PolicyFile.reload, PolicyFile.path_settle]
  refine ⟨settled, fun {bytes text} read decoded => ?_, fun {error} fails => ?_⟩
  · rw [path] at read
    have loads := PolicyFile.load_of_decode before.grammar read decoded
    rw [grammar, settled, PolicyFile.reload, loads]
    rfl
  · rw [reading, grammar, path] at fails
    rw [settled, PolicyFile.reload, fails]
    exact ⟨rfl, rfl⟩

/-- When no notice is under way or waits, no deadline is set and no reload runs, the last reading
of the file has found it as it is, and the policy is what that load has made of it. -/
theorem no_change_is_lost (initial : PolicyFile Rule) (target : WatchTarget) (volume : Volume)
    (events : List LiveEvent)
    (runs : Runs (start (initial.reload volume).2 target volume) events last)
    (quiet : last.isQuiet) :
    ∃ before, ReadLast initial (start (initial.reload volume).2 target volume) events before
      last.volume ∧ last.IsReloaded before := by
  have kept := nothingLost_of_runs target runs
  simp only [isQuiet, Bool.and_eq_true, beq_iff_eq, Bool.not_eq_true'] at quiet
  rcases quiet with ⟨⟨⟨arrived, taken⟩, disarmed⟩, idle⟩
  have rests : ¬last.IsDue := by
    simp [IsDue, arrived, taken, disarmed, idle]
  have empty : last.watched.loaded = none := by
    simpa [idle] using kept.inHand
  rcases kept.takenUp rests with ⟨before, read, settled⟩
  rw [LivePolicy.settled, empty] at settled
  exact ⟨before, read, isReloaded_of_eq settled⟩

/-- The file changes once more when the reload for its first change has just read it. -/
theorem no_change_is_lost_twice :
    let initial := PolicyFile.new bypassGrammar "bypass.conf"
    let first := start (initial.reload .blank).2 ⟨"/bypass.conf", "bypass.conf", "/"⟩ .blank
    let volume (text : String) := Volume.ofBypass (Text.encode text)
    let reload : List LiveEvent :=
      [.watcher .notice, .watcher .receive, .watcher .fire, .watcher .read]
    let events := .change (volume "/a\n") :: reload ++ .change (volume "/b\n") ::
      .watcher .finish :: reload ++ [.watcher .finish]
    ∃ last, Runs first events last ∧ last.isQuiet ∧
      ∃ before, ReadLast initial first events before last.volume ∧ last.IsReloaded before := by
  intro initial first volume reload events
  have runs : ∃ last, Runs first events last ∧ last.isQuiet :=
    ⟨_, .cons trivial rfl (.cons trivial rfl (.cons trivial rfl (.cons trivial rfl
      (.cons trivial rfl (.cons trivial rfl (.cons rfl rfl (.cons trivial rfl
        (.cons trivial rfl (.cons trivial rfl (.cons trivial rfl (.cons rfl rfl
          .nil))))))))))), rfl⟩
  rcases runs with ⟨last, runs, quiet⟩
  exact ⟨last, runs, quiet, no_change_is_lost initial _ .blank events runs quiet⟩

end LivePolicy

end Gatehouse
