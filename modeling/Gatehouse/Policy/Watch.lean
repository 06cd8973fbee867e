import Gatehouse.Policy.File

/-!
# Watching a policy file

A watcher reloads a policy when its file changes and the changes have settled.
The directory is watched, not the file, so that a file which is moved into
place is seen.  Each change of the file queues a message; receiving one sets a
deadline, and a later one sets it anew; when the deadline passes one reload
runs.  The time until the deadline plays no part here: it may pass at any
moment once it is set.

Closing asks the watcher to stop.  It does so before it takes anything else up,
and closing has ended when it has stopped.
-/

namespace Gatehouse

open Disk (Path Volume)

/-- What a watcher is about. -/
structure WatchTarget where
  /-- The path from the root. -/
  path : Path
  /-- The name whose changes count. -/
  fileName : String
  /-- The directory that is watched. -/
  directory : Path
  deriving DecidableEq, Repr

namespace WatchTarget

/-- A path from the root. -/
def absolute (volume : Volume) (path : Path) : Path :=
  if path.isAbsolute then path
  else Path.child ("/" ++ Text.join "/" volume.workingDirectory) path

/-- What is to be watched for a path, if it ends with a name and its directory is there. -/
def of (volume : Volume) (path : Path) : Except PolicyError WatchTarget :=
  let path := absolute volume path
  match path.fileName? with
  | none => .error (.disk (.noFileName path))
  | some fileName =>
      let directory := (path.parent?).getD "/"
      if volume.hasAt directory then .ok ⟨path, fileName, directory⟩ else .error .watch

/-- A change of a path counts: it has the name that is watched, and its directory is the
watched one. -/
def concerns (target : WatchTarget) (volume : Volume) (changed : Path) : Bool :=
  changed.fileName? == some target.fileName &&
    (volume.resolve changed.directory).toOption == (volume.resolve target.directory).toOption

end WatchTarget

/-- The state of the loop that reloads. -/
structure Watcher where
  /-- The messages that wait. -/
  queued : Nat := 0
  /-- A deadline is set. -/
  armed : Bool := false
  running : Bool := false
  /-- Closing was asked for. -/
  closing : Bool := false
  stopped : Bool := false
  deriving DecidableEq, Repr

/-- What can happen to the loop. -/
inductive WatchEvent where
  /-- A change of the file is delivered. -/
  | notice
  | receive
  /-- The deadline passes, and a reload starts. -/
  | fire
  /-- The running reload reads the file. -/
  | read
  /-- The reload ends, whether it succeeded, failed or broke off. -/
  | finish
  /-- Closing is asked for. -/
  | close
  | stop
  deriving DecidableEq, Repr

namespace Watcher

/-- The loop waits for something to happen. -/
def isWaiting (watcher : Watcher) : Bool :=
  !watcher.running && !watcher.stopped

/-- The state after an event, if the event can happen. -/
def step (watcher : Watcher) : WatchEvent → Option Watcher
  | .notice =>
      if watcher.closing then none else some { watcher with queued := watcher.queued + 1 }
  | .receive =>
      if watcher.isWaiting && !watcher.closing && 0 < watcher.queued then
        some { watcher with queued := watcher.queued - 1, armed := true }
      else none
  | .fire =>
      if watcher.isWaiting && !watcher.closing && watcher.armed then
        some { watcher with armed := false, running := true }
      else none
  | .read => if watcher.running then some watcher else none
  | .finish => if watcher.running then some { watcher with running := false } else none
  | .close => some { watcher with closing := true }
  | .stop =>
      if watcher.isWaiting && watcher.closing then some { watcher with stopped := true } else none

def run (watcher : Watcher) : List WatchEvent → Option Watcher
  | [] => some watcher
  | event :: rest => (watcher.step event).bind fun next => next.run rest

def settledChange : List WatchEvent :=
  [.notice, .receive, .fire, .read, .finish]

def settledClose : List WatchEvent :=
  [.close, .stop]

end Watcher

/-- A policy with a watcher. -/
structure WatchedPolicy (Rule : Type) where
  policy : PolicyFile Rule
  /-- What is watched. -/
  target : WatchTarget
  watcher : Watcher := {}
  /-- What the running reload has read, if it has. -/
  loaded : Option (Except PolicyError (Ruleset Rule)) := none

namespace WatchedPolicy

variable {Rule : Type}

/-- The policy after an event on a volume.  What a reload has read takes effect when the reload
ends; one that breaks off before it has read has no effect. -/
def step (watched : WatchedPolicy Rule) (volume : Volume) (event : WatchEvent) :
    Option (WatchedPolicy Rule) :=
  (watched.watcher.step event).map fun watcher =>
    match event, watched.loaded with
    | .read, _ =>
        { watched with
          watcher := watcher
          loaded := some (PolicyFile.load watched.policy.grammar volume watched.policy.path) }
    | .finish, some loaded =>
        { watched with
          watcher := watcher
          policy := (watched.policy.settle loaded).2
          loaded := none }
    | _, _ => { watched with watcher := watcher }

/-- The policy after a list of events on an unchanging volume; events that cannot happen are
passed over. -/
def settle (watched : WatchedPolicy Rule) (volume : Volume) (events : List WatchEvent) :
    WatchedPolicy Rule :=
  events.foldl (fun watched event => (watched.step volume event).getD watched) watched

/-- The policy after a change of a path has settled. -/
def changed (watched : WatchedPolicy Rule) (volume : Volume) (path : Path) : WatchedPolicy Rule :=
  if watched.target.concerns volume path then watched.settle volume Watcher.settledChange
  else watched

end WatchedPolicy

end Gatehouse
