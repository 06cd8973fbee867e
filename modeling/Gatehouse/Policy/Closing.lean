import Gatehouse.Policy.Watch

/-!
# The task of a watcher and the calls that close it

The loop of a watcher is a task of its own.  Whenever it wakes it asks three things, always in
this order: whether it is to stop, whether a message waits, and whether the deadline has passed.
It takes up the first that is so and asks again; if none is, it sleeps until something happens.
A reload runs beside the loop, which awaits its end.

Closing stores a wish to stop, and the loop finds the wish when it asks the next time, at the
latest after the reload it awaits.  The first call takes the handle of the loop and returns when
the loop has ended; a later one finds no handle and returns at once.  The calls come one after the
other.  Between any two steps of the loop messages may arrive, a reload may end and a call may go
on; when the deadline passes is left open.

`Watcher` tells the same loop with each round of questions as one step.
-/

namespace Gatehouse

/-- Where the loop is. -/
inductive LoopStage where
  /-- It is about to ask whether it is to stop; it starts here, and wakes here. -/
  | waking
  /-- It is about to ask for a message. -/
  | receiving
  /-- It is about to ask whether the deadline has passed. -/
  | timing
  /-- It awaits the end of a reload. -/
  | awaiting (reload : Nat)
  | ended
  deriving DecidableEq, Repr

/-- Where the call that closes the watcher is. -/
inductive CloseStage where
  /-- No call is under way. -/
  | idle
  /-- A call has begun, and the directory is watched no more. -/
  | called
  /-- The wish to stop is stored. -/
  | asked
  /-- The call holds the handle of the loop and awaits its end. -/
  | joining
  /-- The watcher was given up; there is no further call. -/
  | dropped
  deriving DecidableEq, Repr

/-- The loop of a watcher, what it can see, and whoever closes it. -/
structure WatchTask where
  /-- The messages that wait. -/
  queued : Nat := 0
  /-- Nobody is left who could send a message. -/
  silent : Bool := false
  /-- A wish to stop is stored. -/
  wish : Bool := false
  stage : LoopStage := .waking
  /-- A deadline is set. -/
  armed : Bool := false
  running : List Nat := []
  /-- The number of reloads that were started, and the name of the next one. -/
  started : Nat := 0
  /-- Who closes. -/
  closing : CloseStage := .idle
  /-- The handle of the loop can still be taken. -/
  held : Bool := true
  deriving DecidableEq, Repr

/-- What can happen to the loop and to those who close it. -/
inductive TaskEvent where
  /-- A message is sent; when the loop has ended, it is refused. -/
  | send
  /-- The last sender goes. -/
  | hangUp
  /-- The loop finds the wish to stop and ends. -/
  | stop
  /-- The loop finds no wish to stop. -/
  | goOn
  /-- The loop takes a message and sets the deadline anew. -/
  | receive
  /-- The loop finds no message and nobody to send one, and ends. -/
  | runDry
  /-- The loop finds no message. -/
  | noMessage
  /-- The deadline has passed, and the loop starts a reload. -/
  | start
  /-- The loop finds nothing to do. -/
  | sleep
  /-- A reload ends; it may have panicked. -/
  | finish (reload : Nat) (panicked : Bool)
  /-- The loop sees that the reload it awaits has ended. -/
  | resume
  /-- A call begins: the directory is watched no more. -/
  | call
  /-- The call stores the wish to stop. -/
  | ask
  /-- The call takes the handle. -/
  | join
  | closed
  | drop
  deriving DecidableEq, Repr

namespace TaskEvent

def isOfLoop : TaskEvent → Bool
  | .stop | .goOn | .receive | .runDry | .noMessage | .start | .sleep | .resume => true
  | _ => false

end TaskEvent

namespace WatchTask

/-- The state after an event, if the event can happen. -/
def step (task : WatchTask) : TaskEvent → Option WatchTask
  | .send =>
      if task.silent then none
      else if task.stage = .ended then some task
      else some { task with queued := task.queued + 1 }
  | .hangUp => some { task with silent := true }
  | .stop =>
      if task.stage = .waking ∧ task.wish then some { task with wish := false, stage := .ended }
      else none
  | .goOn =>
      if task.stage = .waking ∧ task.wish = false then some { task with stage := .receiving }
      else none
  | .receive =>
      if task.stage = .receiving ∧ 0 < task.queued then
        some { task with queued := task.queued - 1, armed := true, stage := .waking }
      else none
  | .runDry =>
      if task.stage = .receiving ∧ task.queued = 0 ∧ task.silent then
        some { task with stage := .ended }
      else none
  | .noMessage =>
      if task.stage = .receiving ∧ task.queued = 0 ∧ task.silent = false then
        some { task with stage := .timing }
      else none
  | .start =>
      if task.stage = .timing ∧ task.armed then
        some { task with
          armed := false
          running := task.started :: task.running
          started := task.started + 1
          stage := .awaiting task.started }
      else none
  | .sleep => if task.stage = .timing then some { task with stage := .waking } else none
  | .finish reload _ =>
      if reload ∈ task.running then some { task with running := task.running.erase reload }
      else none
  | .resume =>
      match task.stage with
      | .awaiting reload =>
          if reload ∈ task.running then none else some { task with stage := .waking }
      | _ => none
  | .call => if task.closing = .idle then some { task with closing := .called } else none
  | .ask =>
      if task.closing = .called then some { task with closing := .asked, wish := true } else none
  | .join =>
      if task.closing = .asked ∧ task.held then
        some { task with closing := .joining, held := false }
      else none
  | .closed =>
      if task.closing = .asked ∧ task.held = false ∨
          task.closing = .joining ∧ task.stage = .ended then
        some { task with closing := .idle }
      else none
  | .drop =>
      if task.closing = .idle then some { task with closing := .dropped, wish := true } else none

def run (task : WatchTask) : List TaskEvent → Option WatchTask
  | [] => some task
  | event :: rest => (task.step event).bind fun next => next.run rest

/-- The loop as one that takes a whole round as a step.  It is asked to close when it ends. -/
def rounds (task : WatchTask) : Watcher :=
  { queued := task.queued
    armed := task.armed
    running := !task.running.isEmpty
    closing := task.stage = .ended
    stopped := task.stage = .ended }

/-- What an event is to a loop that takes a whole round as a step. -/
def roundsOf (task : WatchTask) : TaskEvent → List WatchEvent
  | .send => if task.stage = .ended then [] else [.notice]
  | .receive => [.receive]
  | .start => [.fire]
  | .finish _ _ => [.finish]
  | .stop | .runDry => [.close, .stop]
  | _ => []

/-- What a list of events is to a loop that takes a whole round as a step. -/
def roundsOfAll (task : WatchTask) : List TaskEvent → List WatchEvent
  | [] => []
  | event :: rest =>
      task.roundsOf event ++ ((task.step event).map fun next => next.roundsOfAll rest).getD []

end WatchTask

end Gatehouse
