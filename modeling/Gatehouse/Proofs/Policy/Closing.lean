import Mathlib.Data.List.Induction
import Gatehouse.Policy.Closing

/-!
# Reloads come one by one, and closing is final

The loop starts a reload only where it asks for the deadline, and it asks again only when it has
seen the end of that reload: so there is never a second one.  Whatever sets the deadline is a
message, and starting a reload takes the deadline away: so each reload has a message of its own.

Once the wish to stop is stored it stays until the loop finds it, and the loop asks for it first.
Wherever the loop is by then, a few steps lead it there.  A call that has taken the handle returns
when the loop has ended, and a later call finds the handle gone only if the loop has ended or
another call still awaits it.  No event leads away from a loop that has ended.
-/

namespace Gatehouse

theorem Watcher.run_append (watcher : Watcher) (first second : List WatchEvent) :
    watcher.run (first ++ second) = (watcher.run first).bind fun next => next.run second := by
  induction first generalizing watcher with
  | nil => rfl
  | cons event rest ih => simp [run, Option.bind_assoc, ih]

namespace WatchTask

variable {first task next last : WatchTask} {event : TaskEvent}
  {events earlier later : List TaskEvent}

/-- What an event has found and what it leaves. -/
inductive Turns (task : WatchTask) : TaskEvent → WatchTask → Prop
  | sent (heard : task.silent = false) (goes : task.stage ≠ .ended) :
      Turns task .send { task with queued := task.queued + 1 }
  | refused (ended : task.stage = .ended) : Turns task .send task
  | hungUp : Turns task .hangUp { task with silent := true }
  | stopped (here : task.stage = .waking) (wished : task.wish) :
      Turns task .stop { task with wish := false, stage := .ended }
  | wentOn (here : task.stage = .waking) (unwished : task.wish = false) :
      Turns task .goOn { task with stage := .receiving }
  | received (here : task.stage = .receiving) (waits : 0 < task.queued) :
      Turns task .receive
        { task with queued := task.queued - 1, armed := true, stage := .waking }
  | ranDry (here : task.stage = .receiving) (empty : task.queued = 0) (silent : task.silent) :
      Turns task .runDry { task with stage := .ended }
  | foundNothing (here : task.stage = .receiving) (empty : task.queued = 0)
      (heard : task.silent = false) : Turns task .noMessage { task with stage := .timing }
  | started (here : task.stage = .timing) (armed : task.armed) :
      Turns task .start
        { task with
          armed := false
          running := task.started :: task.running
          started := task.started + 1
          stage := .awaiting task.started }
  | slept (here : task.stage = .timing) : Turns task .sleep { task with stage := .waking }
  | finished {reload : Nat} {panicked : Bool} (runs : reload ∈ task.running) :
      Turns task (.finish reload panicked) { task with running := task.running.erase reload }
  | resumed {reload : Nat} (here : task.stage = .awaiting reload) (gone : reload ∉ task.running) :
      Turns task .resume { task with stage := .waking }
  | called (idle : task.closing = .idle) : Turns task .call { task with closing := .called }
  | asked (called : task.closing = .called) :
      Turns task .ask { task with closing := .asked, wish := true }
  | joined (asked : task.closing = .asked) (held : task.held) :
      Turns task .join { task with closing := .joining, held := false }
  | returned (asked : task.closing = .asked) (taken : task.held = false) :
      Turns task .closed { task with closing := .idle }
  | awaited (joining : task.closing = .joining) (ended : task.stage = .ended) :
      Turns task .closed { task with closing := .idle }
  | dropped (idle : task.closing = .idle) :
      Turns task .drop { task with closing := .dropped, wish := true }

theorem turns_of_step (steps : task.step event = some next) : task.Turns event next := by
  cases event with
  | send =>
      rcases Option.ite_none_left_eq_some.mp steps with ⟨heard, steps⟩
      split at steps
      case isTrue ended =>
        cases steps
        exact .refused ended
      case isFalse goes =>
        cases steps
        exact .sent (Bool.eq_false_iff.mpr heard) goes
  | hangUp =>
      cases steps
      exact .hungUp
  | stop =>
      rcases Option.ite_none_right_eq_some.mp steps with ⟨⟨here, wished⟩, made⟩
      cases made
      exact .stopped here wished
  | goOn =>
      rcases Option.ite_none_right_eq_some.mp steps with ⟨⟨here, unwished⟩, made⟩
      cases made
      exact .wentOn here unwished
  | receive =>
      rcases Option.ite_none_right_eq_some.mp steps with ⟨⟨here, waits⟩, made⟩
      cases made
      exact .received here waits
  | runDry =>
      rcases Option.ite_none_right_eq_some.mp steps with ⟨⟨here, empty, silent⟩, made⟩
      cases made
      exact .ranDry here empty silent
  | noMessage =>
      rcases Option.ite_none_right_eq_some.mp steps with ⟨⟨here, empty, heard⟩, made⟩
      cases made
      exact .foundNothing here empty heard
  | start =>
      rcases Option.ite_none_right_eq_some.mp steps with ⟨⟨here, armed⟩, made⟩
      cases made
      exact .started here armed
  | sleep =>
      rcases Option.ite_none_right_eq_some.mp steps with ⟨here, made⟩
      cases made
      exact .slept here
  | finish reload panicked =>
      rcases Option.ite_none_right_eq_some.mp steps with ⟨runs, made⟩
      cases made
      exact .finished runs
  | resume =>
      simp only [step] at steps
      split at steps
      case h_1 reload here =>
        rcases Option.ite_none_left_eq_some.mp steps with ⟨gone, made⟩
        cases made
        exact .resumed here gone
      case h_2 => cases steps
  | call =>
      rcases Option.ite_none_right_eq_some.mp steps with ⟨idle, made⟩
      cases made
      exact .called idle
  | ask =>
      rcases Option.ite_none_right_eq_some.mp steps with ⟨called, made⟩
      cases made
      exact .asked called
  | join =>
      rcases Option.ite_none_right_eq_some.mp steps with ⟨⟨asked, held⟩, made⟩
      cases made
      exact .joined asked held
  | closed =>
      rcases Option.ite_none_right_eq_some.mp steps with ⟨⟨asked, taken⟩ | ⟨joining, ended⟩, made⟩
      · cases made
        exact .returned asked taken
      · cases made
        exact .awaited joining ended
  | drop =>
      rcases Option.ite_none_right_eq_some.mp steps with ⟨idle, made⟩
      cases made
      exact .dropped idle

theorem run_cons_iff :
    first.run (event :: later) = some last ↔
      ∃ next, first.step event = some next ∧ next.run later = some last :=
  Option.bind_eq_some_iff

theorem run_append_iff :
    first.run (earlier ++ later) = some last ↔
      ∃ task, first.run earlier = some task ∧ task.run later = some last := by
  induction earlier generalizing first with
  | nil => simp [run]
  | cons event rest ih =>
      simp only [List.cons_append, run_cons_iff, ih]
      constructor
      · rintro ⟨next, steps, task, reached, ran⟩
        exact ⟨task, ⟨next, steps, reached⟩, ran⟩
      · rintro ⟨task, ⟨next, steps, reached⟩, ran⟩
        exact ⟨next, steps, task, reached, ran⟩

/-- No reload runs but the one that the loop awaits. -/
def RunsAlone (task : WatchTask) : Prop :=
  task.running = [] ∨ ∃ reload, task.stage = .awaiting reload ∧ task.running = [reload]

theorem RunsAlone.running_eq_nil (alone : task.RunsAlone)
    (elsewhere : ∀ reload, task.stage ≠ .awaiting reload) : task.running = [] := by
  rcases alone with idle | ⟨reload, here, -⟩
  · exact idle
  · exact absurd here (elsewhere reload)

theorem RunsAlone.turns (alone : task.RunsAlone) (turns : task.Turns event next) :
    next.RunsAlone := by
  cases turns with
  | started here armed =>
      have idle := alone.running_eq_nil (by simp [here])
      exact .inr ⟨task.started, rfl, by simp [idle]⟩
  | @finished reload panicked runs =>
      left
      rcases alone with idle | ⟨awaited, here, only⟩
      · simp [idle]
      · rw [only, List.mem_singleton] at runs
        simp [only, runs]
  | @resumed reload here gone =>
      -- The loop wakes up for the end of the reload that it awaits, and no other can run.
      left
      rcases alone with idle | ⟨awaited, there, only⟩
      · exact idle
      · cases here.symm.trans there
        simp [only] at gone
  | stopped here _ | wentOn here _ | received here _ | ranDry here _ _ | foundNothing here _ _
  | slept here =>
      left
      exact alone.running_eq_nil (by simp [here])
  | _ => exact alone

/-- The loop has received a message since it started a reload last. -/
def HasReceived (events : List TaskEvent) : Prop :=
  ∃ before after, events = before ++ .receive :: after ∧ .start ∉ after

theorem HasReceived.concat (received : HasReceived events) (other : event ≠ .start) :
    HasReceived (events ++ [event]) := by
  rcases received with ⟨before, after, rfl, unstarted⟩
  refine ⟨before, after ++ [event], by simp, ?_⟩
  simpa [unstarted] using other.symm

/-- A deadline is owed to a message, and so was the deadline of each reload. -/
structure IsOwed (events : List TaskEvent) (task : WatchTask) : Prop where
  received : task.armed → HasReceived events
  counted : events.count .start + task.armed.toNat ≤ events.count .receive

theorem IsOwed.turns (owed : IsOwed events task) (turns : task.Turns event next) :
    IsOwed (events ++ [event]) next := by
  have counted := owed.counted
  cases turns with
  | received here waits =>
      refine ⟨fun _ => ⟨events, [], rfl, List.not_mem_nil⟩, ?_⟩
      simpa using Nat.le_of_add_right_le counted
  | started here armed =>
      refine ⟨nofun, ?_⟩
      -- The deadline that is gone pays for the reload.
      simpa [armed] using counted
  | _ => exact ⟨fun armed => (owed.received armed).concat nofun, by simpa using counted⟩

/-- Whoever has taken the handle awaits the end, as long as the loop has not ended. -/
def IsAwaited (task : WatchTask) : Prop :=
  task.held = false → task.closing = .joining ∨ task.stage = .ended

theorem IsAwaited.turns (awaited : task.IsAwaited) (turns : task.Turns event next) :
    next.IsAwaited := by
  unfold IsAwaited at awaited ⊢
  cases turns with
  | stopped here wished => exact fun _ => .inr rfl
  | ranDry here empty silent => exact fun _ => .inr rfl
  | wentOn here _ | received here _ | foundNothing here _ _ | started here _ | slept here
  | resumed here _ => simpa [here] using awaited
  | called here | asked here | dropped here | returned here _ => simpa [here] using awaited
  | joined asked held => exact fun _ => .inl rfl
  | awaited joining ended => exact fun _ => .inr ended
  | _ => exact awaited

/-- What holds of the loop and its callers at any time. -/
structure IsOrderly (events : List TaskEvent) (task : WatchTask) : Prop where
  alone : task.RunsAlone
  owed : IsOwed events task
  awaited : task.IsAwaited

theorem isOrderly_of_run (reached : run {} events = some task) : IsOrderly events task := by
  induction events using List.reverseRecOn generalizing task with
  | nil =>
      cases reached
      exact ⟨.inl rfl, ⟨nofun, Nat.le_refl 0⟩, nofun⟩
  | append_singleton events event ih =>
      rcases run_append_iff.mp reached with ⟨before, reached, steps⟩
      rcases run_cons_iff.mp steps with ⟨next, steps, ends⟩
      cases ends
      have turns := turns_of_step steps
      have orderly := ih reached
      exact ⟨orderly.alone.turns turns, orderly.owed.turns turns, orderly.awaited.turns turns⟩

/-- The number of steps that are left to a loop with a wish to stop stored. -/
def stepsLeft (task : WatchTask) : Nat :=
  match task.stage with
  | .ended => 0
  | .waking => 1
  | .awaiting _ => 2
  | .timing => 3
  | .receiving => 4

/-- The loop is to stop, or it has ended. -/
def IsStopping (task : WatchTask) : Prop :=
  task.wish ∨ task.stage = .ended

theorem IsStopping.turns (stopping : task.IsStopping) (turns : task.Turns event next) :
    next.IsStopping ∧ next.stepsLeft + event.isOfLoop.toNat ≤ task.stepsLeft := by
  unfold IsStopping at stopping ⊢
  cases turns with
  | stopped here wished => simp [stepsLeft, here, TaskEvent.isOfLoop]
  | ranDry here empty silent => simp [stepsLeft, here, TaskEvent.isOfLoop]
  | wentOn here unwished => simp [here, unwished] at stopping
  | received here _ | foundNothing here _ _ | started here _ | slept here | resumed here _ =>
      have wished : task.wish := by
        simpa [here] using stopping
      simp [stepsLeft, here, wished, TaskEvent.isOfLoop]
  | asked _ | dropped _ => exact ⟨.inl rfl, Nat.le_refl _⟩
  | _ => exact ⟨stopping, Nat.le_refl _⟩

theorem IsStopping.run (stopping : task.IsStopping) (ran : task.run later = some last) :
    last.IsStopping ∧ last.stepsLeft + later.countP TaskEvent.isOfLoop ≤ task.stepsLeft := by
  induction later generalizing task with
  | nil =>
      cases ran
      exact ⟨stopping, Nat.le_refl _⟩
  | cons event rest ih =>
      rcases run_cons_iff.mp ran with ⟨next, steps, ran⟩
      rcases stopping.turns (turns_of_step steps) with ⟨stopping, spent⟩
      rcases ih stopping ran with ⟨stopping, left⟩
      refine ⟨stopping, ?_⟩
      -- Only the steps of the loop count, and each of them spends one of those that are left.
      rw [List.countP_cons]
      cases loops : event.isOfLoop
      · simpa using Nat.le_trans left (Nat.le_of_add_right_le spent)
      · simp [loops] at spent ⊢
        omega

/-- A loop that is to stop has a next step unless it has ended or a reload runs. -/
theorem IsStopping.moves (stopping : task.IsStopping) (idle : task.running = [])
    (goes : task.stage ≠ .ended) :
    ∃ event, event.isOfLoop ∧ (task.step event).isSome := by
  have wished : task.wish := by
    simpa [IsStopping, goes] using stopping
  match here : task.stage with
  | .waking => exact ⟨.stop, rfl, by simp [step, here, wished]⟩
  | .receiving =>
      by_cases waits : 0 < task.queued
      · exact ⟨.receive, rfl, by simp [step, here, waits]⟩
      · have empty : task.queued = 0 := Nat.eq_zero_of_not_pos waits
        cases heard : task.silent
        · exact ⟨.noMessage, rfl, by simp [step, here, empty, heard]⟩
        · exact ⟨.runDry, rfl, by simp [step, here, empty, heard]⟩
  | .timing => exact ⟨.sleep, rfl, by simp [step, here]⟩
  | .awaiting reload => exact ⟨.resume, rfl, by simp [step, here, idle]⟩
  | .ended => exact absurd here goes

/-- The loop has ended, and no reload runs. -/
def IsOver (task : WatchTask) : Prop :=
  task.stage = .ended ∧ task.running = []

theorem IsOver.turns (rests : task.IsOver) (turns : task.Turns event next) :
    next.IsOver ∧ event ≠ .start := by
  rcases rests with ⟨ended, idle⟩
  cases turns with
  | stopped here _ | wentOn here _ | received here _ | ranDry here _ _ | foundNothing here _ _
  | started here _ | slept here | resumed here _ => cases ended.symm.trans here
  | finished runs => simp [idle] at runs
  | _ => exact ⟨⟨ended, idle⟩, nofun⟩

theorem IsOver.run (rests : task.IsOver) (ran : task.run later = some last) :
    last.IsOver ∧ .start ∉ later := by
  induction later generalizing task with
  | nil =>
      cases ran
      exact ⟨rests, List.not_mem_nil⟩
  | cons event rest ih =>
      rcases run_cons_iff.mp ran with ⟨next, steps, ran⟩
      rcases rests.turns (turns_of_step steps) with ⟨rests, other⟩
      rcases ih rests ran with ⟨rests, unstarted⟩
      exact ⟨rests, by simp [other.symm, unstarted]⟩

theorem IsOrderly.isOver (orderly : IsOrderly events task) (steps : task.step .closed = some next) :
    next.IsOver := by
  have ended : task.stage = .ended := by
    cases turns_of_step steps with
    | returned asked taken =>
        -- The handle is gone, and since this call does not await the loop, the loop has ended.
        have either := orderly.awaited taken
        simpa [asked] using either
    | awaited joining ended => exact ended
  have rests : task.IsOver := ⟨ended, orderly.alone.running_eq_nil (by simp [ended])⟩
  exact (rests.turns (turns_of_step steps)).1

theorem rounds_turn (alone : task.RunsAlone) (turns : task.Turns event next) :
    task.rounds.run (task.roundsOf event) = some next.rounds := by
  cases turns with
  | sent heard goes => simp [rounds, roundsOf, Watcher.run, Watcher.step, goes]
  | refused ended => simp [roundsOf, Watcher.run, ended]
  | stopped here _ | ranDry here _ _ =>
      have idle := alone.running_eq_nil (by simp [here])
      simp [rounds, roundsOf, Watcher.run, Watcher.step, Watcher.isWaiting, here, idle]
  | received here waits =>
      have idle := alone.running_eq_nil (by simp [here])
      simp [rounds, roundsOf, Watcher.run, Watcher.step, Watcher.isWaiting, here, idle, waits]
  | started here armed =>
      have idle := alone.running_eq_nil (by simp [here])
      simp [rounds, roundsOf, Watcher.run, Watcher.step, Watcher.isWaiting, here, idle, armed]
  | @finished reload panicked runs =>
      rcases alone with idle | ⟨awaited, here, only⟩
      · simp [idle] at runs
      · rw [only, List.mem_singleton] at runs
        simp [rounds, roundsOf, Watcher.run, Watcher.step, here, only, runs]
  | wentOn here _ | foundNothing here _ _ | slept here | resumed here _ =>
      simp [rounds, roundsOf, Watcher.run, here]
  | _ => rfl

theorem rounds_run (alone : first.RunsAlone) (ran : first.run events = some last) :
    first.rounds.run (first.roundsOfAll events) = some last.rounds := by
  induction events generalizing first with
  | nil =>
      cases ran
      rfl
  | cons event rest ih =>
      rcases run_cons_iff.mp ran with ⟨next, steps, ran⟩
      have turns := turns_of_step steps
      have behind := ih (alone.turns turns) ran
      simpa [roundsOfAll, steps, Watcher.run_append, rounds_turn alone turns] using behind

/-- What is promised of the reloads of a watcher that these events have brought to this state. -/
structure KeepsReloadsInOrder (events : List TaskEvent) (task : WatchTask) : Prop where
  /-- Two reloads never run at the same time. -/
  single : task.running.length ≤ 1
  /-- No more reloads are started than messages are received. -/
  counted : events.count .start ≤ events.count .receive
  /-- A message is received before the first reload, and between one and the next. -/
  preceded {earlier later : List TaskEvent} (starts : events = earlier ++ .start :: later) :
    HasReceived earlier
  /-- Once closing was asked for, the loop takes at most four more steps, and only a reload that
  runs can keep it from them. -/
  stopping {earlier later : List TaskEvent} {wish : TaskEvent} (asks : wish = .ask ∨ wish = .drop)
    (asked : events = earlier ++ wish :: later) :
    later.countP TaskEvent.isOfLoop ≤ 4 ∧ (task.running = [] → task.stage ≠ .ended →
      ∃ event, event.isOfLoop ∧ (task.step event).isSome)
  /-- Once a call has returned, no reload runs, and none is started. -/
  closed {earlier later : List TaskEvent} (returns : events = earlier ++ .closed :: later) :
    task.running = [] ∧ .start ∉ later
  /-- The loop that takes whole rounds goes through the same messages and reloads. -/
  rounds : Watcher.run {} (roundsOfAll {} events) = some task.rounds

/-- However messages, deadlines, ends of reloads and calls come in each other's way, reloads run
one at a time, each for a message of its own, and closing is final. -/
theorem reloads_are_kept_in_order (events : List TaskEvent) (task : WatchTask)
    (reached : run {} events = some task) : KeepsReloadsInOrder events task where
  single := by
    rcases (isOrderly_of_run reached).alone with idle | ⟨reload, -, only⟩
    · simp [idle]
    · simp [only]
  counted := Nat.le_of_add_right_le (isOrderly_of_run reached).owed.counted
  preceded := by
    rintro earlier later rfl
    rcases run_append_iff.mp reached with ⟨before, reached, ran⟩
    rcases run_cons_iff.mp ran with ⟨next, steps, -⟩
    cases turns_of_step steps with
    | started here armed => exact (isOrderly_of_run reached).owed.received armed
  stopping := by
    rintro earlier later wish asks rfl
    rcases run_append_iff.mp reached with ⟨before, reached, ran⟩
    rcases run_cons_iff.mp ran with ⟨next, steps, ran⟩
    have stopping : next.IsStopping := by
      rcases asks with rfl | rfl
      · cases turns_of_step steps
        exact .inl rfl
      · cases turns_of_step steps
        exact .inl rfl
    rcases stopping.run ran with ⟨stops, left⟩
    have most : next.stepsLeft ≤ 4 := by
      unfold stepsLeft
      split <;> decide
    exact ⟨by omega, stops.moves⟩
  closed := by
    rintro earlier later rfl
    -- The call returns to a loop that is over, and the rest of the run leaves it so.
    rcases run_append_iff.mp reached with ⟨before, reached, ran⟩
    rcases run_cons_iff.mp ran with ⟨next, steps, ran⟩
    have rests := (isOrderly_of_run reached).isOver steps
    rcases rests.run ran with ⟨⟨-, idle⟩, unstarted⟩
    exact ⟨idle, unstarted⟩
  rounds := rounds_run (.inl rfl) reached

/-- A reload panics, and the watcher is closed twice while a message waits and a deadline is set. -/
theorem reloads_are_kept_in_order_closing :
    let events : List TaskEvent :=
      [.send, .goOn, .receive, .goOn, .noMessage, .start, .send, .send, .finish 0 true, .resume,
        .goOn, .receive, .call, .ask, .join, .stop, .closed, .call, .ask, .closed]
    ∃ task, run {} events = some task ∧ task.armed ∧ task.queued = 1 ∧
      KeepsReloadsInOrder events task := by
  intro events
  have reached : ∃ task, run {} events = some task ∧ task.armed ∧ task.queued = 1 :=
    ⟨_, rfl, rfl, rfl⟩
  rcases reached with ⟨task, reached, armed, waits⟩
  exact ⟨task, reached, armed, waits, reloads_are_kept_in_order events task reached⟩

end WatchTask

end Gatehouse
