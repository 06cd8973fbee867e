import Gatehouse.Bypass
import Gatehouse.Policy.Interleaving
import Gatehouse.Proofs.Policy.Commit

/-!
# Reloads that overtake each other

Between the step in which a reload reads the file and the step in which it
publishes what it has read, the file may be replaced, and another reload may read
the new file and publish it.  The slow reload then puts the old rules back, and
they stay in force although every operation has ended.

This is the only way in which the ruleset in force can come to differ from the
file for good.  As long as no reload is overtaken like that, the last publishing
puts in force what the file holds, or a reload that does so is still to come.

What has happened in a run is told by its deeds, the latest first.
-/

namespace Gatehouse

open Disk (Timestamp Volume)

/-- What a step does to the file or to the ruleset in force. -/
inductive Deed where
  | read (operation : Nat)
  | published (operation : Nat)
  /-- The file is replaced, or a commit that fails has changed it. -/
  | replaced
  deriving DecidableEq, Repr

namespace Deed

variable {deeds : List Deed} {operation : Nat}

/-- An operation has read the file since it was replaced last. -/
def Fresh (operation : Nat) : List Deed → Prop
  | [] => False
  | .read reader :: earlier => reader = operation ∨ Fresh operation earlier
  | .published _ :: earlier => Fresh operation earlier
  | .replaced :: _ => False

/-- The file has been replaced since an operation read it. -/
def Outdated (operation : Nat) (deeds : List Deed) : Prop :=
  [.replaced, .read operation].Sublist deeds

/-- The operation that published last has read the file since it was replaced last, or nothing
was published or replaced. -/
def Current : List Deed → Prop
  | [] => True
  | .read _ :: earlier => Current earlier
  | .published operation :: earlier => Fresh operation earlier
  | .replaced :: _ => False

/-- An operation publishes what it read before a replacement of the file, after another operation
has published what it read since. -/
def Overtakes (deeds : List Deed) : Prop :=
  ∃ slow fast, [.published slow, .published fast, .read fast, .replaced, .read slow].Sublist deeds

theorem Overtakes.append (overtakes : Overtakes deeds) (later : List Deed) :
    Overtakes (later ++ deeds) := by
  rcases overtakes with ⟨slow, fast, within⟩
  exact ⟨slow, fast, List.sublist_append_of_sublist_right within⟩

theorem outdated_of_not_fresh (read : .read operation ∈ deeds) (stale : ¬Fresh operation deeds) :
    Outdated operation deeds := by
  induction deeds with
  | nil => cases read
  | cons deed earlier ih =>
      cases deed with
      | read reader =>
          rw [Fresh, not_or] at stale
          have before : .read operation ∈ earlier := by
            simpa [Ne.symm stale.1] using read
          exact (ih before stale.2).cons _
      | published _ =>
          have before : .read operation ∈ earlier := by
            simpa using read
          exact (ih before stale).cons _
      | replaced =>
          have before : .read operation ∈ earlier := by
            simpa using read
          exact (List.singleton_sublist.mpr before).cons_cons .replaced

/-- Whoever has read the new file has done so after it was replaced. -/
theorem Fresh.read_sublist {slow fast : Nat} (fresh : Fresh fast deeds)
    (outdated : Outdated slow deeds) :
    [.read fast, .replaced, .read slow].Sublist deeds := by
  induction deeds with
  | nil => exact fresh.elim
  | cons deed earlier ih =>
      cases deed with
      | read reader =>
          have before : Outdated slow earlier := by
            cases outdated with
            | cons _ before => exact before
          rcases fresh with rfl | fresh
          · exact before.cons_cons _
          · exact (ih fresh before).cons _
      | published _ =>
          cases outdated with
          | cons _ before => exact (ih fresh before).cons _
      | replaced => exact fresh.elim

theorem Current.published_sublist {slow : Nat} (current : Current deeds)
    (outdated : Outdated slow deeds) :
    ∃ fast, [.published fast, .read fast, .replaced, .read slow].Sublist deeds := by
  induction deeds with
  | nil => cases outdated
  | cons deed earlier ih =>
      cases deed with
      | read _ =>
          cases outdated with
          | cons _ before =>
              rcases ih current before with ⟨fast, within⟩
              exact ⟨fast, within.cons _⟩
      | published fast =>
          cases outdated with
          | cons _ before => exact ⟨fast, (Fresh.read_sublist current before).cons_cons _⟩
      | replaced => exact current.elim

/-- To publish what is out of date when what is in force is not is to overtake. -/
theorem Current.overtakes {slow : Nat} (current : Current deeds) (outdated : Outdated slow deeds) :
    Overtakes (.published slow :: deeds) := by
  rcases current.published_sublist outdated with ⟨fast, within⟩
  exact ⟨slow, fast, within.cons_cons _⟩

end Deed

/-- Whoever replaces the file from outside leaves a well-formed disk. -/
def SharedEvent.IsSound : SharedEvent → Prop
  | .replacedOutside volume => volume.WellFormed
  | _ => True

namespace SharedPolicy

variable {Rule : Type} {volume : Volume} {first shared next last : SharedPolicy Rule}
  {event : SharedEvent} {events : List SharedEvent} {past : List Deed} {deed : Option Deed}

/-- What a load of the file would answer now. -/
def reading (shared : SharedPolicy Rule) : Except PolicyError (Ruleset Rule) :=
  PolicyFile.load shared.policy.grammar shared.volume shared.policy.path

/-- What an event does to the file or to the ruleset in force, if anything. -/
def deed? (shared : SharedPolicy Rule) : SharedEvent → Option Deed
  | .beginReload | .beginCommit _ _ => none
  | .replacedOutside _ => some .replaced
  | .advance operation time =>
      match shared.tasks[operation]? with
      | some .load => some (.read operation)
      | some (.settle (.ok _)) => some (.published operation)
      | some (.replace content) =>
          let outcome := shared.volume.replaceWithBackup shared.policy.path content time
          if outcome.1.toBool || shared.differsOn outcome.2 then some .replaced else none
      | _ => none

/-- What an event has found, what it does and what it leaves. -/
inductive Advances (shared : SharedPolicy Rule) :
    SharedEvent → Option Deed → SharedPolicy Rule → Prop
  | reloadBegun :
      Advances shared .beginReload none { shared with tasks := shared.tasks ++ [.load] }
  | commitBegun (content : ByteArray) (condition : Option String) :
      Advances shared (.beginCommit content condition) none
        { shared with tasks := shared.tasks ++ [.check content condition] }
  | replacedOutside (volume : Volume) :
      Advances shared (.replacedOutside volume) (some .replaced)
        { shared with volume := volume, tasks := shared.tasks ++ [.load] }
  | read {operation : Nat} {time : Timestamp} (here : shared.tasks[operation]? = some .load) :
      Advances shared (.advance operation time) (some (.read operation))
        { shared with tasks := shared.tasks.set operation (.settle shared.reading) }
  | published {operation : Nat} {time : Timestamp} {ruleset : Ruleset Rule}
      (here : shared.tasks[operation]? = some (.settle (.ok ruleset))) :
      Advances shared (.advance operation time) (some (.published operation))
        { shared with
          policy := (shared.policy.settle (.ok ruleset)).2
          tasks := shared.tasks.set operation .done }
  | failed {operation : Nat} {time : Timestamp} {error : PolicyError}
      (here : shared.tasks[operation]? = some (.settle (.error error))) :
      Advances shared (.advance operation time) none
        { shared with
          policy := (shared.policy.settle (.error error)).2
          tasks := shared.tasks.set operation .done }
  | checked {operation : Nat} {time : Timestamp} {content : ByteArray} {condition : Option String}
      {follows : Task Rule} (here : shared.tasks[operation]? = some (.check content condition))
      (either : follows = .replace content ∨ follows = .done) :
      Advances shared (.advance operation time) none
        { shared with tasks := shared.tasks.set operation follows }
  | replaced {operation : Nat} {time : Timestamp} {content : ByteArray} {left : Volume}
      (here : shared.tasks[operation]? = some (.replace content))
      (succeeds :
        shared.volume.replaceWithBackup shared.policy.path content time = (.ok (), left)) :
      Advances shared (.advance operation time) (some .replaced)
        { shared with volume := left, tasks := shared.tasks.set operation .load }
  | spoiled {operation : Nat} {time : Timestamp} {content : ByteArray} {error : Disk.Error}
      {left : Volume} (here : shared.tasks[operation]? = some (.replace content))
      (fails : shared.volume.replaceWithBackup shared.policy.path content time =
        (.error error, left)) :
      Advances shared (.advance operation time) (some .replaced)
        { shared with volume := left, tasks := shared.tasks.set operation .done ++ [.load] }
  | unreplaced {operation : Nat} {time : Timestamp} {content : ByteArray} {error : Disk.Error}
      {left : Volume} (here : shared.tasks[operation]? = some (.replace content))
      (fails : shared.volume.replaceWithBackup shared.policy.path content time =
        (.error error, left))
      (kept : left.read shared.policy.path = shared.volume.read shared.policy.path) :
      Advances shared (.advance operation time) none
        { shared with volume := left, tasks := shared.tasks.set operation .done }

theorem read_eq_of_not_differsOn {left : Volume} (same : shared.differsOn left = false) :
    left.read shared.policy.path = shared.volume.read shared.policy.path := by
  unfold differsOn at same
  split at same
  case h_1 before after =>
      rw [Bool.not_eq_false', decide_eq_true_eq] at same
      rw [before, after, ByteArray.ext same]
  case h_2 before after =>
      rw [Bool.not_eq_false', decide_eq_true_eq] at same
      rw [before, after, same]
  case h_3 => cases same

theorem advances_of_step (steps : shared.step event = some next) :
    shared.Advances event (shared.deed? event) next := by
  cases event with
  | beginReload =>
      cases steps
      exact .reloadBegun
  | beginCommit content condition =>
      cases steps
      exact .commitBegun content condition
  | replacedOutside volume =>
      cases steps
      exact .replacedOutside volume
  | advance operation time =>
      rcases Option.bind_eq_some_iff.mp steps with ⟨task, here, moves⟩
      rcases Option.map_eq_some_iff.mp moves with ⟨⟨follows, begun, policy, volume⟩, performed, rfl⟩
      simp only [deed?, here]
      cases task with
      | load =>
          cases performed
          rw [List.append_nil]
          exact .read here
      | settle loaded =>
          cases performed
          rw [List.append_nil]
          cases loaded with
          | ok ruleset => exact .published here
          | error error => exact .failed here
      | check content condition =>
          simp only [perform] at performed
          split at performed
          · cases performed
            rw [List.append_nil]
            exact .checked here (.inr rfl)
          · split at performed
            all_goals
              cases performed
              rw [List.append_nil]
            · exact .checked here (.inl rfl)
            · exact .checked here (.inr rfl)
      | replace content =>
          rcases outcome : shared.volume.replaceWithBackup shared.policy.path content time with
            ⟨_ | _, left⟩
          all_goals
            simp only [perform, outcome] at performed ⊢
            cases performed
          · cases differs : shared.differsOn volume with
            | true => exact .spoiled here outcome
            | false =>
                simp only [Except.toBool, Bool.or_self, Bool.false_eq_true, if_false,
                  List.append_nil]
                exact .unreplaced here outcome (read_eq_of_not_differsOn differs)
          · rw [List.append_nil]
            exact .replaced here outcome
      | done => cases performed

/-- What the events of a run have done, the latest deed first. -/
def deeds (shared : SharedPolicy Rule) : List SharedEvent → List Deed
  | [] => []
  | event :: rest =>
      ((shared.step event).elim [] fun next => next.deeds rest) ++ (shared.deed? event).toList

theorem run_concat_iff :
    first.run (events ++ [event]) = some last ↔
      ∃ shared, first.run events = some shared ∧ shared.step event = some last := by
  induction events generalizing first with
  | nil => simp [run]
  | cons earlier rest ih =>
      simp only [List.cons_append, run, Option.bind_eq_some_iff, ih]
      constructor
      · rintro ⟨next, steps, shared, reached, final⟩
        exact ⟨shared, ⟨next, steps, reached⟩, final⟩
      · rintro ⟨shared, ⟨next, steps, reached⟩, final⟩
        exact ⟨next, steps, shared, reached, final⟩

theorem deeds_concat (reached : first.run events = some shared)
    (steps : shared.step event = some last) :
    first.deeds (events ++ [event]) = (shared.deed? event).toList ++ first.deeds events := by
  induction events generalizing first with
  | nil =>
      cases reached
      simp [deeds, steps]
  | cons earlier rest ih =>
      rcases Option.bind_eq_some_iff.mp reached with ⟨next, before, reached⟩
      simp only [List.cons_append, deeds, before, Option.elim_some, ih reached, List.append_assoc]

variable {tasks : List (Task Rule)} {task : Task Rule} {operation other : Nat}
  {loaded : Except PolicyError (Ruleset Rule)}

/-- An operation has in hand what it has read. -/
def Holds (tasks : List (Task Rule)) (operation : Nat)
    (loaded : Except PolicyError (Ruleset Rule)) : Prop :=
  tasks[operation]? = some (.settle loaded)

theorem holds_of_concat (holds : Holds (tasks ++ [task]) operation loaded)
    (empty : ∀ loaded, task ≠ .settle loaded) : Holds tasks operation loaded := by
  rw [Holds, List.getElem?_append] at holds
  split at holds
  · exact holds
  · exact absurd (List.mem_singleton.mp (List.mem_of_getElem? holds)).symm (empty loaded)

theorem holds_set (holds : Holds (tasks.set other task) operation loaded) :
    other ≠ operation ∧ Holds tasks operation loaded ∨
      other = operation ∧ task = .settle loaded := by
  by_cases same : other = operation
  · subst same
    rw [Holds, List.getElem?_set_self'] at holds
    rcases Option.map_eq_some_iff.mp holds with ⟨_, -, made⟩
    exact .inr ⟨rfl, made⟩
  · rw [Holds, List.getElem?_set_ne same] at holds
    exact .inl ⟨same, holds⟩

theorem holds_of_set (holds : Holds (tasks.set other task) operation loaded)
    (empty : ∀ loaded, task ≠ .settle loaded) : Holds tasks operation loaded := by
  rcases holds_set holds with ⟨-, holds⟩ | ⟨-, made⟩
  · exact holds
  · exact absurd made (empty loaded)

/-- What is in force and what the operations have in hand, told from what was done. -/
structure Accounted (past : List Deed) (shared : SharedPolicy Rule) : Prop where
  wellFormed : shared.volume.WellFormed
  /-- What is current is what the file holds. -/
  published : Deed.Current past → ∀ ruleset, shared.reading = .ok ruleset →
    shared.policy.published = some ruleset
  /-- What is in hand was read. -/
  read : ∀ operation loaded, Holds shared.tasks operation loaded → .read operation ∈ past
  /-- What is in hand and fresh is what the file holds. -/
  fresh : ∀ operation loaded, Holds shared.tasks operation loaded → Deed.Fresh operation past →
    loaded = shared.reading

theorem reading_congr {left : Volume}
    (kept : left.read shared.policy.path = shared.volume.read shared.policy.path)
    (tasks : List (Task Rule)) : reading ⟨shared.policy, left, tasks⟩ = shared.reading := by
  simp only [reading, PolicyFile.load, kept]

/-- Where neither the file nor the ruleset in force changes and nothing new is in hand, the
account stays. -/
theorem Accounted.congr (accounted : Accounted past shared)
    (wellFormed : next.volume.WellFormed) (reading : next.reading = shared.reading)
    (published : next.policy.published = shared.policy.published)
    (held : ∀ operation loaded, Holds next.tasks operation loaded →
      Holds shared.tasks operation loaded) : Accounted past next where
  wellFormed := wellFormed
  published := by
    rw [reading, published]
    exact accounted.published
  read operation loaded holds := accounted.read operation loaded (held operation loaded holds)
  fresh operation loaded holds := by
    rw [reading]
    exact accounted.fresh operation loaded (held operation loaded holds)

/-- A new file leaves nothing current and nothing fresh. -/
theorem Accounted.replaced (accounted : Accounted past shared)
    (wellFormed : next.volume.WellFormed)
    (held : ∀ operation loaded, Holds next.tasks operation loaded →
      Holds shared.tasks operation loaded) : Accounted (.replaced :: past) next where
  wellFormed := wellFormed
  published := False.elim
  read operation loaded holds :=
    List.mem_cons_of_mem _ (accounted.read operation loaded (held operation loaded holds))
  fresh _ _ _ := False.elim

theorem Accounted.advances (accounted : Accounted past shared) (sound : event.IsSound)
    (advances : shared.Advances event deed next) : Accounted (deed.toList ++ past) next := by
  -- What is read is recorded when it is read; only a new file can make the record stale.
  have wellFormed := Volume.wellFormed_replaceWithBackup accounted.wellFormed shared.policy.path
  cases advances with
  | reloadBegun =>
      refine accounted.congr accounted.wellFormed rfl rfl fun _ _ holds => ?_
      exact holds_of_concat holds nofun
  | commitBegun content condition =>
      refine accounted.congr accounted.wellFormed rfl rfl fun _ _ holds => ?_
      exact holds_of_concat holds nofun
  | replacedOutside volume =>
      refine accounted.replaced sound fun _ _ holds => ?_
      exact holds_of_concat holds nofun
  | @read reader time here =>
      refine ⟨accounted.wellFormed, accounted.published, ?_, ?_⟩
      · intro operation loaded holds
        rcases holds_set holds with ⟨-, holds⟩ | ⟨rfl, -⟩
        · exact List.mem_cons_of_mem _ (accounted.read operation loaded holds)
        · exact List.mem_cons_self
      · intro operation loaded holds fresh
        rcases holds_set holds with ⟨other, holds⟩ | ⟨-, made⟩
        · exact accounted.fresh operation loaded holds (fresh.resolve_left other)
        · cases made
          rfl
  | @published publisher time ruleset here =>
      refine ⟨accounted.wellFormed, ?_, ?_, ?_⟩
      · intro current loaded reads
        have same := accounted.fresh publisher (.ok ruleset) here current
        exact congrArg some (Except.ok.inj (same.trans reads))
      · intro operation loaded holds
        have before := accounted.read operation loaded (holds_of_set holds nofun)
        exact List.mem_cons_of_mem _ before
      · intro operation loaded holds fresh
        exact accounted.fresh operation loaded (holds_of_set holds nofun) fresh
  | failed here =>
      refine accounted.congr accounted.wellFormed rfl rfl fun _ _ holds => ?_
      exact holds_of_set holds nofun
  | checked here either =>
      refine accounted.congr accounted.wellFormed rfl rfl fun _ _ holds => ?_
      exact holds_of_set holds (by rcases either with rfl | rfl <;> nofun)
  | @replaced operation time content left here succeeds =>
      have ready := congrArg (fun outcome => outcome.2.WellFormed) succeeds
      refine accounted.replaced (ready ▸ wellFormed content time) fun _ _ holds => ?_
      exact holds_of_set holds nofun
  | @spoiled operation time content error left here fails =>
      have ready := congrArg (fun outcome => outcome.2.WellFormed) fails
      refine accounted.replaced (ready ▸ wellFormed content time) fun _ _ holds => ?_
      exact holds_of_set (holds_of_concat holds nofun) nofun
  | @unreplaced operation time content error left here fails kept =>
      have ready := congrArg (fun outcome => outcome.2.WellFormed) fails
      refine accounted.congr (ready ▸ wellFormed content time) (reading_congr kept _) rfl
        fun _ _ holds => ?_
      exact holds_of_set holds nofun

/-- An operation is about to read the file, or to settle what the file holds. -/
inductive Awaits (past : List Deed) (tasks : List (Task Rule)) (operation : Nat) : Prop
  | load (here : tasks[operation]? = some .load)
  | settle {loaded : Except PolicyError (Ruleset Rule)} (holds : Holds tasks operation loaded)
      (fresh : Deed.Fresh operation past)

theorem Awaits.concat (awaits : Awaits past tasks operation) (task : Task Rule) :
    Awaits past (tasks ++ [task]) operation := by
  have kept : ∀ {here}, tasks[operation]? = some here → (tasks ++ [task])[operation]? = some here :=
    fun found => (List.getElem?_append_left (List.getElem?_eq_some_iff.mp found).1).trans found
  cases awaits with
  | load here => exact .load (kept here)
  | settle holds fresh => exact .settle (kept holds) fresh

/-- Another operation's step leaves an operation as it was. -/
theorem Awaits.set (awaits : Awaits past tasks operation) (differs : other ≠ operation)
    (task : Task Rule) : Awaits past (tasks.set other task) operation := by
  have kept : (tasks.set other task)[operation]? = tasks[operation]? :=
    List.getElem?_set_ne differs
  cases awaits with
  | load here => exact .load (kept.trans here)
  | settle holds fresh => exact .settle (kept.trans holds) fresh

theorem Awaits.loads_or_settles (awaits : Awaits past tasks operation)
    (here : tasks[operation]? = some task) :
    task = .load ∨ ∃ loaded, task = .settle loaded ∧ Deed.Fresh operation past := by
  cases awaits with
  | load load => exact .inl (Option.some.inj (here.symm.trans load))
  | settle holds fresh => exact .inr ⟨_, Option.some.inj (here.symm.trans holds), fresh⟩

theorem Awaits.published (awaits : Awaits past tasks operation) (publisher : Nat) :
    Awaits (.published publisher :: past) tasks operation := by
  cases awaits with
  | load here => exact .load here
  | settle holds fresh => exact .settle holds fresh

/-- The ruleset in force is current, or an operation that will make it so is under way. -/
def Recovers (past : List Deed) (tasks : List (Task Rule)) : Prop :=
  Deed.Current past ∨ ∃ operation, Awaits past tasks operation

theorem recovers_concat (past : List Deed) (tasks : List (Task Rule)) :
    Recovers past (tasks ++ [.load]) :=
  .inr ⟨tasks.length, .load List.getElem?_concat_length⟩

theorem recovers_set (here : tasks[operation]? = some task) :
    Recovers past (tasks.set operation .load) :=
  .inr ⟨operation, .load (List.getElem?_set_self (List.getElem?_eq_some_iff.mp here).1)⟩

theorem Recovers.set (recovers : Recovers past tasks) (spare : ¬Awaits past tasks operation)
    (task : Task Rule) : Recovers past (tasks.set operation task) := by
  rcases recovers with current | ⟨awaited, awaits⟩
  · exact .inl current
  · refine .inr ⟨awaited, awaits.set ?_ task⟩
    rintro rfl
    exact spare awaits

/-- Unless one operation overtakes another, a file that can be loaded is in force or will be. -/
theorem recovers_advances (accounted : Accounted past shared)
    (recovers : ∀ ruleset, shared.reading = .ok ruleset → Recovers past shared.tasks)
    (inOrder : ¬Deed.Overtakes (deed.toList ++ past)) (advances : shared.Advances event deed next)
    (ruleset : Ruleset Rule) (reads : next.reading = .ok ruleset) :
    Recovers (deed.toList ++ past) next.tasks := by
  cases advances with
  | reloadBegun => exact recovers_concat ..
  | commitBegun content condition =>
      rcases recovers ruleset reads with current | ⟨operation, awaits⟩
      · exact .inl current
      · exact .inr ⟨operation, awaits.concat _⟩
  | replacedOutside volume => exact recovers_concat ..
  | @read reader time here =>
      have holds : Holds (shared.tasks.set reader (.settle shared.reading)) reader shared.reading :=
        List.getElem?_set_self (List.getElem?_eq_some_iff.mp here).1
      exact .inr ⟨reader, .settle holds (.inl rfl)⟩
  | @published publisher time loaded here =>
      by_cases fresh : Deed.Fresh publisher past
      · exact .inl fresh
      · -- The old rules are put back, so what was in force was not the file's, or this overtakes.
        have outdated := Deed.outdated_of_not_fresh (accounted.read publisher _ here) fresh
        rcases recovers ruleset reads with current | ⟨operation, awaits⟩
        · exact absurd (current.overtakes outdated) inOrder
        · refine .inr ⟨operation, (awaits.set ?_ .done).published publisher⟩
          rintro rfl
          rcases awaits.loads_or_settles here with made | ⟨_, -, isFresh⟩
          · cases made
          · exact fresh isFresh
  | @failed operation time error here =>
      refine (recovers ruleset reads).set (fun awaits => ?_) .done
      rcases awaits.loads_or_settles here with made | ⟨_, -, fresh⟩
      · cases made
      · -- What the file holds has failed to load, but the file can be loaded.
        cases (accounted.fresh operation _ here fresh).trans reads
  | @checked operation time content condition follows here either =>
      refine (recovers ruleset reads).set (fun awaits => ?_) follows
      rcases awaits.loads_or_settles here with made | ⟨_, made, -⟩ <;> cases made
  | replaced here succeeds => exact recovers_set here
  | spoiled => exact recovers_concat ..
  | @unreplaced operation time content error left here fails kept =>
      rw [reading_congr kept] at reads
      refine (recovers ruleset reads).set (fun awaits => ?_) .done
      rcases awaits.loads_or_settles here with made | ⟨_, made, -⟩ <;> cases made

theorem accounted_start (wellFormed : volume.WellFormed) (initial : PolicyFile Rule) :
    Accounted [] (start (initial.reload volume).2 volume) where
  wellFormed := wellFormed
  published _ ruleset reads := by
    simp only [reading, start, PolicyFile.reload, PolicyFile.grammar_settle,
      PolicyFile.path_settle] at reads
    simp only [start, PolicyFile.reload, reads]
    rfl
  read _ _ holds := by cases holds
  fresh _ _ holds := by cases holds

theorem accounted_of_run (accounted : Accounted [] first) (sound : ∀ event ∈ events, event.IsSound)
    (ran : first.run events = some last) :
    Accounted (first.deeds events) last ∧ (¬Deed.Overtakes (first.deeds events) →
      ∀ ruleset, last.reading = .ok ruleset → Recovers (first.deeds events) last.tasks) := by
  -- The deeds are told from the last one back, so the induction takes the last event off.
  induction events using List.reverseRecOn generalizing last with
  | nil =>
      cases ran
      exact ⟨accounted, fun _ _ _ => .inl trivial⟩
  | append_singleton events event ih =>
      rcases run_concat_iff.mp ran with ⟨shared, reached, steps⟩
      have soundBefore : ∀ event ∈ events, event.IsSound :=
        fun event member => sound event (List.mem_append_left _ member)
      have soundNow : event.IsSound := sound event (List.mem_concat_self ..)
      rcases ih soundBefore reached with ⟨before, recovers⟩
      have advances := advances_of_step steps
      rw [deeds_concat reached steps]
      refine ⟨before.advances soundNow advances, fun inOrder => ?_⟩
      have inOrderBefore : ¬Deed.Overtakes (first.deeds events) :=
        fun overtakes => inOrder (overtakes.append _)
      exact recovers_advances before (recovers inOrderBefore) inOrder advances

theorem not_awaits_of_isSettled (settled : shared.isSettled) (operation : Nat) :
    ¬Awaits past shared.tasks operation := by
  have ended := List.all_eq_true.mp settled
  rintro (here | ⟨holds, -⟩)
  · exact Bool.false_ne_true (ended _ (List.mem_of_getElem? here))
  · exact Bool.false_ne_true (ended _ (List.mem_of_getElem? holds))

/-- What is in force after a run when the file holds a text. -/
structure FollowsFile (first : SharedPolicy Rule) (events : List SharedEvent)
    (last : SharedPolicy Rule) : Prop where
  /-- If the operation that published last has read the file since it was replaced last, the text
  is in force. -/
  current {bytes : ByteArray} {text : String} (latest : Deed.Current (first.deeds events))
    (read : last.volume.read last.policy.path = .ok bytes)
    (decoded : Text.decode? bytes = some text) :
    last.policy.published = some (last.policy.grammar.parse text)
  /-- If every operation has ended and none has overtaken another, the text is in force. -/
  settled {bytes : ByteArray} {text : String} (ended : last.isSettled)
    (inOrder : ¬Deed.Overtakes (first.deeds events))
    (read : last.volume.read last.policy.path = .ok bytes)
    (decoded : Text.decode? bytes = some text) :
    last.policy.published = some (last.policy.grammar.parse text)

theorem operations_follow_file (initial : PolicyFile Rule) (wellFormed : volume.WellFormed)
    (sound : ∀ event ∈ events, event.IsSound)
    (ran : (start (initial.reload volume).2 volume).run events = some last) :
    FollowsFile (start (initial.reload volume).2 volume) events last := by
  rcases accounted_of_run (accounted_start wellFormed initial) sound ran with
    ⟨accounted, recovers⟩
  constructor
  case current =>
      intro bytes text latest read decoded
      exact accounted.published latest _ (PolicyFile.load_of_decode _ read decoded)
  case settled =>
      intro bytes text ended inOrder read decoded
      have reads := PolicyFile.load_of_decode last.policy.grammar read decoded
      rcases recovers inOrder _ reads with current | ⟨operation, awaits⟩
      · exact accounted.published current _ reads
      · exact absurd awaits (not_awaits_of_isSettled ended operation)

theorem load_ofBypass (text : String) :
    PolicyFile.load bypassGrammar (.ofBypass (Text.encode text)) "bypass.conf" =
      .ok (bypassGrammar.parse text) :=
  PolicyFile.load_of_decode _ (Volume.read_ofBypass _ .read) (Text.decode?_encode text)

/-- One reload reads the old file and another the new one; they publish in that order, and the
reload for the new file comes last. -/
theorem operations_follow_file_mixed :
    let old := Volume.ofBypass (Text.encode "/a\n")
    let new := Volume.ofBypass (Text.encode "/a\n/b\n")
    let first := start ((PolicyFile.new bypassGrammar "bypass.conf").reload old).2 old
    let step (operation : Nat) : SharedEvent := .advance operation default
    let events := [.beginReload, .beginReload, step 0, .replacedOutside new, step 1, step 0, step 1,
      step 2, step 2]
    old.WellFormed ∧ (∀ event ∈ events, event.IsSound) ∧
      ∃ last, first.run events = some last ∧ FollowsFile first events last ∧
        last.isSettled ∧ ¬Deed.Overtakes (first.deeds events) := by
  intro old new first step events
  have wellFormed : old.WellFormed := Volume.wellFormed_ofBypass _
  have sound : ∀ event ∈ events, event.IsSound := by
    simp [events, step, SharedEvent.IsSound, new, Volume.wellFormed_ofBypass]
  refine ⟨wellFormed, sound, ?_⟩
  have ran : ∃ last, first.run events = some last ∧ last.isSettled := ⟨_, rfl, rfl⟩
  rcases ran with ⟨last, ran, settled⟩
  have follows := operations_follow_file (.new bypassGrammar "bypass.conf") wellFormed sound ran
  refine ⟨last, ran, follows, settled, ?_⟩
  have told : first.deeds events = [.published 2, .read 2, .published 1, .published 0, .read 1,
      .replaced, .read 0] := by
    simp [events, step, first, old, new, deeds, SharedPolicy.step, start, advance, perform, deed?,
      PolicyFile.reload, PolicyFile.settle, PolicyFile.publish, PolicyFile.new, load_ofBypass]
  rintro ⟨slow, fast, within⟩
  simp [told, List.cons_sublist_cons'] at within
  omega

/-- A reload that reads the old file and settles last puts the old ruleset back. -/
theorem run_overtaking (initial : PolicyFile Rule) {old : Volume} (new : Volume)
    (time : Timestamp) {ruleset : Ruleset Rule}
    (loads : PolicyFile.load initial.grammar old initial.path = .ok ruleset) :
    ∃ last, (start (initial.reload old).2 old).run [.beginReload, .advance 0 time,
        .replacedOutside new, .advance 1 time, .advance 1 time, .advance 0 time] = some last ∧
      last.isSettled ∧ last.volume = new ∧ last.policy.published = some ruleset := by
  let before := (initial.reload old).2
  let loaded (volume : Volume) := PolicyFile.load before.grammar volume before.path
  let between := (before.settle (loaded new)).2
  refine ⟨⟨(between.settle (loaded old)).2, new, [.done, .done]⟩, rfl, rfl, rfl, ?_⟩
  have reads : loaded old = .ok ruleset := by
    simp only [loaded, before, PolicyFile.reload, PolicyFile.grammar_settle,
      PolicyFile.path_settle, loads]
  rw [reads]
  rfl

/-- The file has one rule at first and two in the end, and the one is in force. -/
theorem slow_reload_puts_old_rules_back :
    let old := Volume.ofBypass (Text.encode "/a\n")
    let new := Volume.ofBypass (Text.encode "/a\n/b\n")
    let first := start ((PolicyFile.new bypassGrammar "bypass.conf").reload old).2 old
    let step (operation : Nat) : SharedEvent := .advance operation default
    let events := [.beginReload, step 0, .replacedOutside new, step 1, step 1, step 0]
    old.WellFormed ∧ (∀ event ∈ events, event.IsSound) ∧
      ∃ last, first.run events = some last ∧ last.isSettled ∧
        last.volume.read "bypass.conf" = .ok (Text.encode "/a\n/b\n") ∧
        last.policy.published ≠ some (bypassGrammar.parse "/a\n/b\n") := by
  intro old new first step events
  have sound : ∀ event ∈ events, event.IsSound := by
    simp [events, step, SharedEvent.IsSound, new, Volume.wellFormed_ofBypass]
  have loads := load_ofBypass "/a\n"
  rcases run_overtaking (.new bypassGrammar "bypass.conf") new default loads with
    ⟨last, ran, settled, replaced, published⟩
  refine ⟨Volume.wellFormed_ofBypass _, sound, last, ran, settled, ?_, ?_⟩
  · rw [replaced]
    exact Volume.read_ofBypass _ .read
  · have fewer : (bypassGrammar.parse "/a\n").size ≠ (bypassGrammar.parse "/a\n/b\n").size := by
      decide +kernel
    rw [published, Ne, Option.some.injEq]
    exact fun same => fewer (congrArg Ruleset.size same)

/-- The steps of a reload that nothing disturbs add up to a reload. -/
theorem run_reload (policy : PolicyFile Rule) (volume : Volume) (time : Timestamp) :
    (start policy volume).run [.beginReload, .advance 0 time, .advance 0 time] =
      some ⟨(policy.reload volume).2, volume, [.done]⟩ :=
  rfl

/-- The steps of a commit that nothing disturbs add up to a commit; the watch may have begun a
reload. -/
theorem run_commit (policy : PolicyFile Rule) (volume : Volume) (time : Timestamp)
    (content : ByteArray) (condition : Option String) :
    ∃ steps begun, (start policy volume).run
        (.beginCommit content condition :: List.replicate steps (.advance 0 time)) =
      some ⟨(policy.commitBytes volume time content condition).2.1,
        (policy.commitBytes volume time content condition).2.2, .done :: begun⟩ ∧
      begun ⊆ [.load] := by
  unfold PolicyFile.commitBytes
  cases read : policy.bytes volume with
  | error error => exact ⟨1, [], by simp [run, step, start, advance, perform, read], by simp⟩
  | ok current =>
      by_cases meets : meetsPrecondition current condition
      · rcases replaces : volume.replaceWithBackup policy.path content time with
          ⟨_ | _, left⟩
        · refine ⟨2, if differsOn ⟨policy, volume, [.replace content]⟩ left then [.load] else [],
            ?_, by split <;> simp⟩
          simp [run, step, start, advance, perform, read, meets, replaces, Except.toBool]
        · exact ⟨4, [], by simp [run, step, start, advance, perform, read, meets, replaces,
            Except.toBool, PolicyFile.reload], by simp⟩
      · exact ⟨1, [], by simp [run, step, start, advance, perform, read, meets], by simp⟩

end SharedPolicy

end Gatehouse
