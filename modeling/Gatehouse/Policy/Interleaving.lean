import Gatehouse.Policy.File

/-!
# Operations side by side

Several operations on one policy may be under way at once.  Each is a sequence
of steps that nothing interrupts, and the steps of different operations mix in
any order.  A reload reads the file in one step and settles what it read in
another.  A commit checks its precondition in one step, replaces the file in
another, and goes on as a reload.  A commit that fails at that ends there, but if it
has changed the file, the watch sees the change and a reload follows, as it does when
the file is replaced from outside.

`SharedPolicy.advance` takes one step of one operation.  Operations are numbered
in the order in which they begin, and one that has ended keeps its number.
-/

namespace Gatehouse

open Disk (Timestamp Volume)

/-- The next step of an operation. -/
inductive Task (Rule : Type) where
  /-- To read the file. -/
  | load
  /-- To settle what was read. -/
  | settle (loaded : Except PolicyError (Ruleset Rule))
  /-- To check what a writer asks the file to be before it is replaced by the content. -/
  | check (content : ByteArray) (condition : Option String)
  /-- To replace the file by the content. -/
  | replace (content : ByteArray)
  | done

def Task.isDone {Rule : Type} : Task Rule → Bool
  | .done => true
  | _ => false

/-- A policy, the disk its file is on, and the operations on it. -/
structure SharedPolicy (Rule : Type) where
  policy : PolicyFile Rule
  volume : Volume
  /-- The next step of each operation, the operation that began first standing first. -/
  tasks : List (Task Rule) := []

/-- What can happen to a policy that several clients use. -/
inductive SharedEvent where
  | beginReload
  /-- A commit of content that was found sound begins. -/
  | beginCommit (content : ByteArray) (condition : Option String)
  /-- The file is replaced from outside, and a reload begins; the disk is the given one
  afterwards. -/
  | replacedOutside (volume : Volume)
  /-- An operation takes its next step, at a time. -/
  | advance (operation : Nat) (time : Timestamp)

namespace SharedPolicy

variable {Rule : Type}

/-- A policy that was just loaded, with no operation begun. -/
def start (policy : PolicyFile Rule) (volume : Volume) : SharedPolicy Rule :=
  ⟨policy, volume, []⟩

/-- What is read at the path of the file differs on another volume. -/
def differsOn (shared : SharedPolicy Rule) (volume : Volume) : Bool :=
  match shared.volume.read shared.policy.path, volume.read shared.policy.path with
  | .ok old, .ok new => !decide (old.data = new.data)
  | .error old, .error new => !decide (old = new)
  | _, _ => true

/-- Takes the step of a task: the step that follows it, the operations that the watch begins, and
what is left behind.  Nothing is left to take when an operation has ended. -/
def perform (shared : SharedPolicy Rule) (time : Timestamp) (task : Task Rule) :
    Option (Task Rule × List (Task Rule) × PolicyFile Rule × Volume) :=
  let policy := shared.policy
  let volume := shared.volume
  match task with
  | .load => some (.settle (PolicyFile.load policy.grammar volume policy.path), [], policy, volume)
  | .settle loaded => some (.done, [], (policy.settle loaded).2, volume)
  | .check content condition =>
      match policy.bytes volume with
      | .error _ => some (.done, [], policy, volume)
      | .ok current =>
          if meetsPrecondition current condition then
            some (.replace content, [], policy, volume)
          else some (.done, [], policy, volume)
  | .replace content =>
      let outcome := volume.replaceWithBackup policy.path content time
      if outcome.1.toBool then some (.load, [], policy, outcome.2)
      else some (.done, if shared.differsOn outcome.2 then [.load] else [], policy, outcome.2)
  | .done => none

/-- An operation takes its next step, if it has begun and not ended. -/
def advance (shared : SharedPolicy Rule) (time : Timestamp) (operation : Nat) :
    Option (SharedPolicy Rule) :=
  (shared.tasks[operation]?).bind fun task =>
    (shared.perform time task).map fun (next, begun, policy, volume) =>
      ⟨policy, volume, shared.tasks.set operation next ++ begun⟩

/-- The state after an event, if the event can happen. -/
def step (shared : SharedPolicy Rule) : SharedEvent → Option (SharedPolicy Rule)
  | .beginReload => some { shared with tasks := shared.tasks ++ [.load] }
  | .beginCommit content condition =>
      some { shared with tasks := shared.tasks ++ [.check content condition] }
  | .replacedOutside volume =>
      some { shared with volume := volume, tasks := shared.tasks ++ [.load] }
  | .advance operation time => shared.advance time operation

/-- The state after a list of events, if they can happen in this order. -/
def run (shared : SharedPolicy Rule) : List SharedEvent → Option (SharedPolicy Rule)
  | [] => some shared
  | event :: rest => (shared.step event).bind fun next => next.run rest

/-- Every operation has ended. -/
def isSettled (shared : SharedPolicy Rule) : Bool :=
  shared.tasks.all Task.isDone

end SharedPolicy

end Gatehouse
