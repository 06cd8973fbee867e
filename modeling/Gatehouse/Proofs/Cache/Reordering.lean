import Gatehouse.Pattern.Engine
import Gatehouse.Proofs.Cache.Checking
import Mathlib.Data.List.Forall2

/-!
# Options in another order

A line that gives nothing twice means the same in every order of its options.  Reading
keeps the last of several options that speak about one field, so with one of them there
is nothing to keep apart.  Checking goes through all of them and counts the matchers, so
it finds the same defects, in the order of the words.

The number of a line does not change when its words change places, so a message about
one order is, letter for letter, a message about any other.
-/

namespace Gatehouse

namespace CacheRule

variable {Given : Type} {gives : String × String → Option Given}
  {line other : RuleLine} {before after : List (String × String)}

/-- The words behind the first word of a line stand in another order. -/
structure Reordered (line other : RuleLine) : Prop where
  number : other.number = line.number
  first : other.tokens.head? = line.tokens.head?
  arguments : line.arguments.Perm other.arguments

/-- The line gives at most one matcher, whatever its key, and no other option twice. -/
structure GivesOnce (line : RuleLine) : Prop where
  matcher : (matchersOf line.options).length ≤ 1
  keyed : ∀ key ∈ ["methods", "ttl", "vary"],
    (line.options.filter fun option => option.1 = key).length ≤ 1

namespace Reordered

theorem keyword (reordered : Reordered line other) : other.keyword = line.keyword := by
  rw [RuleLine.keyword, RuleLine.keyword, List.headD_eq_head?_getD, List.headD_eq_head?_getD,
    reordered.first]

theorem options (reordered : Reordered line other) : line.options.Perm other.options :=
  reordered.arguments.filterMap RuleLine.option?

theorem length_tokens (reordered : Reordered line other) :
    other.tokens.length = line.tokens.length := by
  have behind := reordered.arguments.length_eq
  have first := reordered.first
  rw [RuleLine.arguments, RuleLine.arguments] at behind
  cases words : line.tokens <;> cases otherWords : other.tokens <;> simp_all

end Reordered

/-- Of options among which one speaks at most, none is the last in one order alone. -/
theorem lastGiven_of_perm (permuted : before.Perm after)
    (single : (before.filterMap gives).length ≤ 1) :
    lastGiven gives before = lastGiven gives after := by
  have given := permuted.filterMap gives
  rw [lastGiven, lastGiven]
  congr 1
  generalize before.filterMap gives = values at given single
  cases values with
  | nil => exact (List.perm_nil.mp given.symm).symm
  | cons value rest =>
      cases List.eq_nil_of_length_eq_zero (Nat.le_zero.mp (Nat.le_of_succ_le_succ single))
      exact (List.perm_singleton.mp given.symm).symm

/-- Options that speak about a field are of the kind that does. -/
theorem length_filterMap_le_of_kind {ofKind : String × String → Bool}
    (kind : ∀ option value, gives option = some value → ofKind option)
    (options : List (String × String)) :
    (options.filterMap gives).length ≤ (options.filter ofKind).length := by
  have speaking : options.filterMap gives = (options.filter ofKind).filterMap gives := by
    rw [List.filterMap_filter]
    refine List.filterMap_congr fun option _ => ?_
    cases given : gives option with
    | none => split <;> rfl
    | some value => rw [if_pos (kind option value given)]
  rw [speaking]
  exact List.length_filterMap_le gives _

theorem GivesOnce.lastGiven_keyed {key : String} (once : GivesOnce line)
    (known : key ∈ ["methods", "ttl", "vary"]) (reordered : Reordered line other)
    (ofKey : ∀ option value, gives option = some value → option.1 = key) :
    lastGiven gives line.options = lastGiven gives other.options := by
  refine lastGiven_of_perm reordered.options (le_trans ?_ (once.keyed key known))
  exact length_filterMap_le_of_kind
    (fun option value given => decide_eq_true (ofKey option value given)) _

theorem Reordered.symm (reordered : Reordered line other) : Reordered other line :=
  ⟨reordered.number.symm, reordered.first.symm, reordered.arguments.symm⟩

theorem GivesOnce.of_reordered (once : GivesOnce line) (reordered : Reordered line other) :
    GivesOnce other where
  matcher := (reordered.options.filter _).length_eq ▸ once.matcher
  keyed key known := (reordered.options.filter _).length_eq ▸ once.keyed key known

theorem isOk_eq_of_perm {first second : Report} (permuted : first.messages.Perm second.messages) :
    first.isOk = second.isOk := by
  rw [Report.isOk, Report.isOk, Bool.eq_iff_iff, List.isEmpty_iff_length_eq_zero,
    List.isEmpty_iff_length_eq_zero, permuted.length_eq]

section

variable [PatternEngine] {rule : CacheRule}

theorem GivesOnce.lastGiven_matcher (once : GivesOnce line) (reordered : Reordered line other) :
    lastGiven matcherGiven line.options = lastGiven matcherGiven other.options := by
  refine lastGiven_of_perm reordered.options (le_trans ?_ once.matcher)
  refine length_filterMap_le_of_kind (fun option matcher given => ?_) _
  rcases Option.bind_eq_some_iff.mp given with ⟨kind, found, -⟩
  rw [found, Option.isSome_some]

theorem ReadFrom.of_reordered (read : ReadFrom line rule) (once : GivesOnce line)
    (reordered : Reordered line other) : ReadFrom other rule where
  long := reordered.length_tokens ▸ read.long
  disposition := reordered.keyword ▸ read.disposition
  matcher := by rw [← once.lastGiven_matcher reordered, read.matcher]
  methods := by
    have same := @GivesOnce.lastGiven_keyed _ methodsGiven _ _ "methods" once (by decide) reordered
      fun _ _ given => (Option.ite_none_right_eq_some.mp given).1
    rw [← same, read.methods]
  ttl := by
    have same := @GivesOnce.lastGiven_keyed _ ttlGiven _ _ "ttl" once (by decide) reordered
      fun _ _ given => (Option.ite_none_right_eq_some.mp given).1
    rw [← same, read.ttl]
  vary := by
    have same := @GivesOnce.lastGiven_keyed _ varyGiven _ _ "vary" once (by decide) reordered
      fun _ _ given => (Option.ite_none_right_eq_some.mp given).1
    rw [← same, read.vary]

theorem ofLine?_eq_of_reordered (once : GivesOnce line) (reordered : Reordered line other) :
    ofLine? line = ofLine? other := by
  apply Option.ext
  intro rule
  rw [ofLine?_eq_some_iff, ofLine?_eq_some_iff]
  constructor
  · intro read
    exact read.of_reordered once reordered
  · intro read
    exact read.of_reordered (once.of_reordered reordered) reordered.symm

/-- The same is wrong with both lines, whatever they give and how often. -/
theorem lineDefects_perm (reordered : Reordered line other) :
    (lineDefects line).Perm (lineDefects other) := by
  have matchers : (matchersOf other.options).length = (matchersOf line.options).length :=
    (reordered.options.filter _).length_eq.symm
  rw [lineDefects, lineDefects, reordered.keyword]
  change List.Perm (_ ++ _ ++ (matcherCountDefect (matchersOf line.options).length).toList)
    (_ ++ _ ++ (matcherCountDefect (matchersOf other.options).length).toList)
  rw [matchers]
  exact ((reordered.options.flatMap_right _).append_left _).append_right _

theorem messages_perm (reordered : Reordered line other) :
    (check line).messages.Perm (check other).messages := by
  have place : other.place = line.place := by
    rw [RuleLine.place, RuleLine.place, reordered.number]
  rw [check, check, place]
  exact (lineDefects_perm reordered).map _

/-- The lines are read as one rule, and what is reported on one is reported on the other, alone
or among the lines of a text. -/
structure JudgedAlike (line other : RuleLine) : Prop where
  read : cacheGrammar.parseLine line = cacheGrammar.parseLine other
  messages : (cacheGrammar.checkLine line).messages.Perm (cacheGrammar.checkLine other).messages
  verdict : (cacheGrammar.checkLine line).isOk = (cacheGrammar.checkLine other).isOk
  /-- A text with one of the lines in place of the other has the same rules, and the same
  messages but for their order. -/
  among : ∀ text changed before behind,
    RuleLine.all text = before ++ line :: behind →
    RuleLine.all changed = before ++ other :: behind →
      cacheGrammar.parse text = cacheGrammar.parse changed ∧
        (cacheGrammar.validate text).messages.Perm (cacheGrammar.validate changed).messages ∧
        (cacheGrammar.validate text).isOk = (cacheGrammar.validate changed).isOk

theorem reordered_judgedAlike (once : GivesOnce line) (reordered : Reordered line other) :
    JudgedAlike line other := by
  have read : cacheGrammar.parseLine line = cacheGrammar.parseLine other :=
    ofLine?_eq_of_reordered once reordered
  have messages := messages_perm reordered
  constructor
  case read => exact read
  case messages => exact messages
  case verdict => exact isOk_eq_of_perm messages
  case among =>
      intro text changed before behind lines changedLines
      have permuted : (cacheGrammar.validate text).messages.Perm
          (cacheGrammar.validate changed).messages := by
        rw [Grammar.validate, Grammar.validate, lines, changedLines]
        simp only [List.flatMap_append, List.flatMap_cons]
        exact (messages.append_right _).append_left _
      refine ⟨?_, permuted, isOk_eq_of_perm permuted⟩
      rw [Grammar.parse, Grammar.parse, lines, changedLines]
      simp only [List.filterMap_append, List.filterMap_cons, read]

end

/-- Two defects and a word that is no option, in two orders, each the only line of its text. -/
theorem reordered_judgedAlike_text :
    GivesOnce ⟨1, ["ALLOW", "prefix=/a", "ttl=x", "methods=PUT", "page"]⟩ ∧
      Reordered ⟨1, ["ALLOW", "prefix=/a", "ttl=x", "methods=PUT", "page"]⟩
        ⟨1, ["ALLOW", "methods=PUT", "page", "ttl=x", "prefix=/a"]⟩ ∧
      cacheGrammar.parse "ALLOW prefix=/a ttl=x methods=PUT page\n" =
        cacheGrammar.parse "ALLOW methods=PUT page ttl=x prefix=/a\n" ∧
      (cacheGrammar.validate "ALLOW prefix=/a ttl=x methods=PUT page\n").messages.Perm
        (cacheGrammar.validate "ALLOW methods=PUT page ttl=x prefix=/a\n").messages := by
  have once : GivesOnce ⟨1, ["ALLOW", "prefix=/a", "ttl=x", "methods=PUT", "page"]⟩ :=
    ⟨by decide +kernel, by decide +kernel⟩
  have reordered : Reordered ⟨1, ["ALLOW", "prefix=/a", "ttl=x", "methods=PUT", "page"]⟩
      ⟨1, ["ALLOW", "methods=PUT", "page", "ttl=x", "prefix=/a"]⟩ :=
    ⟨rfl, rfl, by decide +kernel⟩
  have alike := (reordered_judgedAlike once reordered).among
    "ALLOW prefix=/a ttl=x methods=PUT page\n" "ALLOW methods=PUT page ttl=x prefix=/a\n" [] []
    (by decide +kernel) (by decide +kernel)
  exact ⟨once, reordered, alike.1, alike.2.1⟩

end CacheRule

end Gatehouse
