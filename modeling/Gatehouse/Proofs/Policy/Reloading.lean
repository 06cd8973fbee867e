import Gatehouse.Proofs.Policy.Session

/-!
# Loads and the ruleset in force

What is in force and what the counters show depends on the history of a session
alone, and of the history on the loads alone.  A turn is a load if it reloads or
commits; a load succeeds if the file can be read then and holds a text.  Everything
else, and whatever becomes of the file between two loads, leaves the ruleset in
force.

A commit loads the file that it has just written, so that load holds a text.  It can
fail all the same, if the disk does not let it be read, and nothing but the counter
of failures shows that.

The counters are words of 64 bits, which start from zero again when they are full.
So they tell the numbers of loads up to multiples of what such a word can count.

The induction carries the ruleset and the counters of an arbitrary session, so
that it can start anywhere.  The statement is about sessions that start with
nothing loaded.
-/

namespace Gatehouse

open Disk (Path Volume)

section

variable [PatternEngine]

namespace PolicySession

variable {Rule : Type}

/-- The text that a load of the file finds. -/
def text? (session : PolicySession Rule) : Option String :=
  match session.volume.read session.policy.path with
  | .ok bytes => Text.decode? bytes
  | .error _ => none

end PolicySession

namespace PolicyTurn

variable {Rule : Type} {turn : PolicyTurn Rule}

/-- The turn tries to load the file: it reloads, or it commits. -/
def loads (turn : PolicyTurn Rule) : Bool :=
  match turn.event, turn.answer with
  | .reload, _ => true
  | _, .submitted (.ok (.committed _ _)) => true
  | _, _ => false

/-- The text that the turn loads, if it loads one: that of the file as the turn leaves it. -/
def loadedText? (turn : PolicyTurn Rule) : Option String :=
  if turn.loads then turn.after.text? else none

/-- What a turn does to the policy depends on the text that it loads. -/
theorem policy_after (turn : PolicyTurn Rule) :
    turn.after.policy =
      match turn.loadedText? with
      | some text => turn.before.policy.loaded text
      | none =>
          if turn.loads then turn.before.policy.stale else turn.before.policy := by
  cases happened : turn.event with
  | submit submission condition time =>
      -- Only a commit that has replaced the file loads it.
      rcases submitted_of_submit happened with ⟨after, submitted, answered, policy, volume, -⟩
      rw [loadedText?, loads, happened, answered, PolicySession.text?, policy, volume]
      cases submitted with
      | @committed text left sound replaces loads =>
          have stands : left.read (turn.before.policy.loaded text).path = .ok (Text.encode text) :=
            Volume.read_eq_ok_iff.mpr ⟨by rw [replaces.refusal, loads], replaces.written⟩
          simp [stands]
      | @unloaded text left error sound replaces refused =>
          have unread : left.read turn.before.policy.stale.path = .error error := by
            simp [Volume.read, Volume.allow, replaces.refusal, refused, bind, Except.bind]
          simp [unread]
      | _ => rfl
  | reload =>
      rcases turn with ⟨before, event⟩
      cases happened
      simp only [loadedText?, loads, if_true, after, PolicySession.step, PolicySession.text?,
        PolicyFile.reload, PolicyFile.path_settle, PolicyFile.load]
      cases before.volume.read before.policy.path with
      | error error => rfl
      | ok bytes =>
          simp only [PolicyFile.rulesetOf]
          cases Text.decode? bytes <;> rfl
  | _ =>
      rcases turn with ⟨before, event⟩
      cases happened
      rfl

end PolicyTurn

namespace PolicySession

variable {Rule : Type}

/-- The texts that the turns of a run have loaded. -/
def loadedTexts (turns : List (PolicyTurn Rule)) : List String :=
  turns.filterMap PolicyTurn.loadedText?

/-- The policy that a run leaves, told from the policy it starts from and from its loads. -/
structure Loaded (policy : PolicyFile Rule) (turns : List (PolicyTurn Rule))
    (reached : PolicyFile Rule) : Prop where
  grammar : reached.grammar = policy.grammar
  published : reached.published =
    ((loadedTexts turns).getLast?.map policy.grammar.parse).or policy.published
  reloads : reached.reloadCounter = policy.reloadCounter + .ofNat (loadedTexts turns).length
  attempts : reached.reloadCounter + reached.failureCounter =
    policy.reloadCounter + policy.failureCounter + .ofNat (turns.countP PolicyTurn.loads)

theorem loaded_turn (turn : PolicyTurn Rule) :
    Loaded turn.before.policy [turn] turn.after.policy := by
  rw [turn.policy_after]
  have attempted : turn.loadedText?.isSome → turn.loads := by
    unfold PolicyTurn.loadedText?
    split
    · exact fun _ => ‹_›
    · simp
  cases loaded : turn.loadedText? with
  | some text =>
      rw [loaded] at attempted
      refine ⟨rfl, ?_, ?_, ?_⟩
      · simp [loadedTexts, loaded, PolicyFile.loaded, PolicyFile.publish]
      · simp [loadedTexts, loaded, PolicyFile.loaded]
      · simp [attempted rfl, PolicyFile.loaded, PolicyFile.publish]
        ac_rfl
  | none =>
      cases tried : turn.loads with
      | true =>
          refine ⟨rfl, ?_, ?_, ?_⟩
          · simp [loadedTexts, loaded, PolicyFile.stale]
          · simp [loadedTexts, loaded, PolicyFile.stale]
          · simp [tried, PolicyFile.stale]
            ac_rfl
      | false =>
          refine ⟨rfl, ?_, ?_, ?_⟩
          · simp [loadedTexts, loaded]
          · simp [loadedTexts, loaded]
          · simp [tried]

theorem Loaded.append {first second third : PolicyFile Rule}
    {earlier later : List (PolicyTurn Rule)} (before : Loaded first earlier second)
    (behind : Loaded second later third) : Loaded first (earlier ++ later) third := by
  have texts : loadedTexts (earlier ++ later) = loadedTexts earlier ++ loadedTexts later :=
    List.filterMap_append
  refine ⟨behind.grammar.trans before.grammar, ?_, ?_, ?_⟩
  · rw [behind.published, before.published, before.grammar, texts, List.getLast?_append,
      Option.map_or, Option.or_assoc]
  · rw [behind.reloads, before.reloads, texts, List.length_append, UInt64.ofNat_add,
      UInt64.add_assoc]
  · rw [behind.attempts, before.attempts, List.countP_append, UInt64.ofNat_add, UInt64.add_assoc]

theorem loaded_run (session : PolicySession Rule) (events : List (PolicyEvent Rule)) :
    Loaded session.policy (session.transcript events) (session.run events).policy := by
  induction events generalizing session with
  | nil => exact ⟨rfl, rfl, by simp [transcript, loadedTexts, run], by simp [transcript, run]⟩
  | cons event rest ih =>
      exact (loaded_turn ⟨session, event⟩).append (ih (session.step event).2)

/-- A ruleset that a client has taken out stays in its place. -/
theorem held_prefix_run (session : PolicySession Rule) (events : List (PolicyEvent Rule)) :
    session.held <+: (session.run events).held := by
  induction events generalizing session with
  | nil => exact List.prefix_refl _
  | cons event rest ih =>
      have kept : session.held <+: (session.step event).2.held := by
        cases event with
        | take => exact List.prefix_append _ _
        | _ => exact List.prefix_refl _
      exact kept.trans (ih (session.step event).2)

theorem length_loadedTexts_le (turns : List (PolicyTurn Rule)) :
    (loadedTexts turns).length ≤ turns.countP PolicyTurn.loads := by
  induction turns with
  | nil => exact Nat.le_refl 0
  | cons turn rest ih =>
      rw [List.countP_cons, loadedTexts, List.filterMap_cons]
      cases loaded : turn.loadedText? with
      | none => exact Nat.le_add_right_of_le ih
      | some text =>
          have loads : turn.loads := by
            unfold PolicyTurn.loadedText? at loaded
            exact (Option.ite_none_right_eq_some.mp loaded).1
          rw [if_pos loads]
          exact Nat.succ_le_succ ih

/-- What is in force, counted and held after a run from a state with nothing loaded. -/
structure KeepsLastGood (session : PolicySession Rule) (events : List (PolicyEvent Rule)) :
    Prop where
  /-- The ruleset in force is that of the text that was loaded last. -/
  published : (session.run events).policy.published =
    (loadedTexts (session.transcript events)).getLast?.map session.policy.grammar.parse
  /-- Nothing is in force exactly if nothing has been loaded. -/
  unloaded : (session.run events).policy.published = none ↔
    loadedTexts (session.transcript events) = []
  /-- Every load that succeeds is counted, in a word. -/
  reloads : (session.run events).policy.reloadCounter =
    .ofNat (loadedTexts (session.transcript events)).length
  /-- Every attempt to load is counted, as a success or as a failure. -/
  attempts :
    (session.run events).policy.reloadCounter + (session.run events).policy.failureCounter =
      .ofNat ((session.transcript events).countP PolicyTurn.loads)
  /-- As long as the number of attempts fits a word, the counters tell it as it is, and a counter
  of loads at zero tells that nothing is in force. -/
  exact : (session.transcript events).countP PolicyTurn.loads < UInt64.size →
    ((session.run events).policy.published = none ↔ (session.run events).policy.reloads = 0) ∧
      (session.run events).policy.reloads + (session.run events).policy.failedReloads =
        (session.transcript events).countP PolicyTurn.loads
  /-- The ruleset that a client took at any point is what was in force then. -/
  held : ∀ earlier later, events = earlier ++ .take :: later →
    (session.run earlier).held ++ [(session.run earlier).policy.published] <+:
      (session.run events).held

theorem last_good_rules_stay (grammar : Grammar Rule) (path : Path) (volume : Volume)
    (wellFormed : volume.WellFormed) (events : List (PolicyEvent Rule)) :
    KeepsLastGood (start grammar path volume wellFormed) events := by
  have loaded := loaded_run (start grammar path volume wellFormed) events
  have published := loaded.published.trans (Option.or_none ..)
  have reloads := loaded.reloads.trans (UInt64.zero_add _)
  have attempts := loaded.attempts.trans (UInt64.zero_add _)
  have unloaded : ((start grammar path volume wellFormed).run events).policy.published = none ↔
      loadedTexts ((start grammar path volume wellFormed).transcript events) = [] := by
    rw [published, Option.map_eq_none_iff, List.getLast?_eq_none_iff]
  constructor
  case published => exact published
  case unloaded => exact unloaded
  case reloads => exact reloads
  case attempts => exact attempts
  case exact =>
      intro fits
      have size : UInt64.size = 2 ^ 64 := rfl
      have successes := length_loadedTexts_le
        ((start grammar path volume wellFormed).transcript events)
      have counted := congrArg UInt64.toNat attempts
      have failed := UInt64.toNat_lt
        ((start grammar path volume wellFormed).run events).policy.failureCounter
      rw [UInt64.toNat_add, reloads, UInt64.toNat_ofNat', UInt64.toNat_ofNat'] at counted
      rw [PolicyFile.reloads, PolicyFile.failedReloads, unloaded, reloads, UInt64.toNat_ofNat',
        ← List.length_eq_zero_iff]
      constructor
      · omega
      · omega
  case held =>
      intro earlier later whole
      rw [whole, run_append]
      exact held_prefix_run (((start grammar path volume wellFormed).run earlier).step .take).2
        later

end PolicySession

end

namespace PolicySession

/-- A file is loaded, then replaced by a commit that cannot load it; the client that looks behind
it finds the old ruleset. -/
theorem last_good_rules_stay_unloaded :
    let old := Volume.ofBypass (Text.encode "/a\n/b\n")
    let session := start bypassGrammar "bypass.conf" old (Volume.wellFormed_ofBypass _)
    let events := [.reload, .change (PolicyFile.refusing .read)
      (PolicyFile.wellFormed_refusing (by decide)), .submit (.text "/c\n") none default, .take]
    old.WellFormed ∧ session.KeepsLastGood events ∧
      (session.run events).policy.published = some (bypassGrammar.parse "/a\n/b\n") ∧
      (session.run events).policy.reloads = 1 ∧ (session.run events).policy.failedReloads = 1 ∧
      Volume.entry? (session.run events).volume ["bypass.conf"] =
        some (.file (Text.encode "/c\n")) := by
  intro old session events
  have wellFormed : old.WellFormed := Volume.wellFormed_ofBypass _
  have loads : session.policy.reload old =
      (.ok (bypassGrammar.parse "/a\n/b\n").size, session.policy.loaded "/a\n/b\n") :=
    PolicyFile.reload_of_read (Volume.read_ofBypass _ .read)
  -- The commit starts from the policy that the first load leaves.
  have commits := @PolicyFile.submit_unloadable (session.policy.reload old).2
    (PolicyFile.path_settle _) (PolicyFile.grammar_settle _)
  have policy : (session.run events).policy = (session.policy.reload old).2.stale :=
    congrArg (fun after => after.2.1) commits
  have volume : Volume.entry? (session.run events).volume ["bypass.conf"] =
      some (.file (Text.encode "/c\n")) :=
    (congrArg (fun after => Volume.entry? after.2.2 ["bypass.conf"]) commits).trans
      (Volume.entry?_put_self (by simp))
  rw [loads] at policy
  refine ⟨wellFormed, last_good_rules_stay _ _ _ wellFormed _, ?_, ?_, ?_, volume⟩
  · rw [policy]
    rfl
  · rw [policy]
    rfl
  · rw [policy]
    rfl

end PolicySession

end Gatehouse
