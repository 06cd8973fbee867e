import Gatehouse.Policy.Watch

/-!
# A watched policy beside its file

The file of a watched policy changes while the watcher works.  Each change
sends one notice, which is under way until it is delivered; between the reading
of the file and the end of a reload there may be more changes.  A run is any
order of changes and of events of the watcher.
-/

namespace Gatehouse

open Disk (Volume)

/-- A watched policy and the disk its file is on. -/
structure LivePolicy (Rule : Type) where
  /-- The policy and its watcher. -/
  watched : WatchedPolicy Rule
  volume : Volume
  /-- The changes whose notices are under way. -/
  underWay : Nat := 0

/-- What can happen to a watched policy and its file. -/
inductive LiveEvent where
  /-- The file is changed; the disk is the given one afterwards. -/
  | change (volume : Volume)
  /-- The watcher takes a step; a notice is delivered only if one is under way. -/
  | watcher (event : WatchEvent)

namespace LivePolicy

variable {Rule : Type}

/-- A policy that was just loaded, with a watcher that has not started its loop. -/
def start (policy : PolicyFile Rule) (target : WatchTarget) (volume : Volume) : LivePolicy Rule :=
  ⟨{ policy := policy, target := target }, volume, 0⟩

/-- The state after an event, if the event can happen. -/
def step (live : LivePolicy Rule) : LiveEvent → Option (LivePolicy Rule)
  | .change volume => some { live with volume := volume, underWay := live.underWay + 1 }
  | .watcher .notice =>
      if live.underWay = 0 then none
      else
        (live.watched.step live.volume .notice).map fun watched =>
          { live with watched := watched, underWay := live.underWay - 1 }
  | .watcher event =>
      (live.watched.step live.volume event).map fun watched => { live with watched := watched }

def run (live : LivePolicy Rule) : List LiveEvent → Option (LivePolicy Rule)
  | [] => some live
  | event :: rest => (live.step event).bind fun next => next.run rest

/-- Nothing is under way, waiting, set or running. -/
def isQuiet (live : LivePolicy Rule) : Bool :=
  live.underWay == 0 && live.watched.watcher.queued == 0 && !live.watched.watcher.armed &&
    !live.watched.watcher.running

end LivePolicy

end Gatehouse
