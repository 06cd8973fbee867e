import Gatehouse.Pattern.Engine
import Gatehouse.Proofs.Cache.Checking
import Gatehouse.Proofs.Policy.Commit
import Gatehouse.Proofs.Rules.Stability

/-!
# Structured rules in the file

Rules in structured form are checked one by one, written to the file and read back
from it.  Their texts come from anywhere, so it is the checks alone that keep
blanks, commas and unreadable patterns out of the file: a draft without a defect is
a rule that can be written, and the line of the rule is sound.

Therefore a commit of drafts is never refused by the second check, the one of the
text, and what it publishes are the rules of the drafts.
-/

namespace Gatehouse

open Disk (Timestamp Volume)
open Text (IsEntry IsPlain IsWord)

namespace PolicyFile

variable {Rule : Type} {policy : PolicyFile Rule} {volume : Volume}

theorem exists_of_bytes_eq_error {error : PolicyError}
    (fails : policy.bytes volume = .error error) :
    ∃ cause, error = .disk cause := by
  unfold bytes at fails
  split at fails
  · cases fails
  · cases fails
  · cases fails
    exact ⟨_, rfl⟩

/-- Once there is a text to write, no report refuses it. -/
theorem commitBytes_ne_invalid {time : Timestamp} {content : ByteArray}
    {condition : Option String} {report : Report} :
    (policy.commitBytes volume time content condition).1 ≠ .error (.invalid report) := by
  unfold commitBytes
  cases read : policy.bytes volume with
  | error error =>
      rcases exists_of_bytes_eq_error read with ⟨cause, rfl⟩
      exact nofun
  | ok current =>
      dsimp only
      split
      case isTrue =>
        rcases volume.replaceWithBackup policy.path content time with ⟨_ | _, left⟩ <;> exact nofun
      case isFalse => exact nofun

end PolicyFile

namespace RuleDraft

variable {draft : RuleDraft}

/-- The names of the methods of the draft, in capitals. -/
def methodNames (draft : RuleDraft) : List String :=
  (draft.methods.map fun method => Text.asciiUpper (Text.trim method)).filter fun name => name ≠ ""

theorem mem_methodSet {method : String} :
    method ∈ draft.methodSet.toList ↔
      if draft.methodNames = [] then method ∈ supportedMethods else method ∈ draft.methodNames := by
  change method ∈ (if draft.methodNames.isEmpty then MethodSet.ofList supportedMethods
    else MethodSet.ofList draft.methodNames).toList ↔ _
  simp only [List.isEmpty_iff]
  split <;> exact MethodSet.mem_ofList

theorem isEntry_of_mem_supportedMethods :
    ∀ method ∈ supportedMethods, IsEntry method ∧ Text.asciiUpper method = method := by
  simp only [supportedMethods, List.forall_mem_cons]
  refine ⟨⟨⟨⟨?_, ?_⟩, ?_⟩, rfl⟩, ⟨⟨⟨?_, ?_⟩, ?_⟩, rfl⟩, nofun⟩ <;> decide

end RuleDraft

section

variable [PatternEngine]

namespace CacheRule

variable {rule : CacheRule} {method : String}

/-- The rule with its methods named, as structured form has it. -/
def shown (rule : CacheRule) : CacheRule :=
  { rule with
    methods := if rule.methods.isEmpty then .ofList supportedMethods else rule.methods }

/-- Strict checking has nothing to say about the rule. -/
structure IsAcceptable (rule : CacheRule) : Prop where
  writable : rule.IsWritable
  matcher : ∃ matcher, rule.matcher = some matcher
  methods : ∀ method ∈ rule.methods.toList, method ∈ supportedMethods

theorem mem_methods_shown (supported : ∀ method ∈ rule.methods.toList, method ∈ supportedMethods) :
    method ∈ rule.shown.methods.toList ↔
      method ∈ supportedMethods ∧ (rule.methods.toList = [] ∨ method ∈ rule.methods.toList) := by
  simp only [shown, MethodSet.isEmpty, List.isEmpty_iff]
  split
  case isTrue unnamed => simp [unnamed, MethodSet.mem_ofList]
  case isFalse named => simpa [named] using supported method

end CacheRule

namespace RuleDraft

variable {draft : RuleDraft} {rule : CacheRule}

/-- The rule is what the draft says. -/
structure Describes (draft : RuleDraft) (rule : CacheRule) : Prop where
  disposition : Disposition.parse? draft.kind = some rule.disposition
  matcher : ∃ matcher, rule.matcher = some matcher ∧
    draft.matchKind? = some matcher.kind ∧ draft.matchValue = matcher.value
  /-- No name at all stands for the supported methods. -/
  methods : ∀ method, method ∈ rule.methods.toList ↔
    method ∈ supportedMethods ∧ (draft.methodNames = [] ∨ method ∈ draft.methodNames)
  ttl : (rule.ttl : Int) = (draft.ttl.map Int64.toInt).getD defaultTtl
  vary : rule.vary = (draft.vary.map Text.trim).filter fun header => header ≠ ""

/-- Nothing is wrong with the draft. -/
structure IsSound (draft : RuleDraft) : Prop where
  disposition : ∃ disposition, Disposition.parse? draft.kind = some disposition
  matcher : ∃ kind, draft.matchKind? = some kind ∧ IsWord draft.matchValue.toList ∧
    ∃ matcher, PathMatcher.make? kind draft.matchValue = some matcher
  methods : ∀ method ∈ draft.methods, Text.asciiUpper (Text.trim method) ∈ "" :: supportedMethods
  ttl : ∀ ttl ∈ draft.ttl, ¬ttl < 0
  vary : ∀ header ∈ draft.vary, ',' ∉ (Text.trim header).toList ∧ IsPlain (Text.trim header).toList

theorem defects_eq_nil_iff : draft.defects = [] ↔ draft.IsSound := by
  simp only [defects, List.append_eq_nil_iff, List.filterMap_eq_nil_iff,
    CacheRule.methodDefect_eq_none_iff, CacheRule.varyDefect_eq_none_iff]
  constructor
  case mp =>
      rintro ⟨⟨⟨⟨disposition, matcher⟩, methods⟩, ttl⟩, vary⟩
      refine ⟨?_, ?_, methods, ?_, vary⟩
      · cases known : Disposition.parse? draft.kind <;> simp_all
      · cases found : draft.matchKind? with
        | none => simp [found] at matcher
        | some kind =>
            rw [found] at matcher
            rw [Option.toList_eq_nil_iff, CacheRule.matchDefect_eq_none_iff] at matcher
            exact ⟨kind, rfl, matcher⟩
      · cases given : draft.ttl <;> simp_all
  case mpr =>
      rintro ⟨⟨disposition, known⟩, ⟨kind, found, matcher⟩, methods, ttl, vary⟩
      refine ⟨⟨⟨⟨?_, ?_⟩, methods⟩, ?_⟩, vary⟩
      · simp [known]
      · rw [found]
        exact Option.toList_eq_nil_iff.mpr (CacheRule.matchDefect_eq_none_iff.mpr matcher)
      · cases given : draft.ttl <;> simp_all

theorem IsSound.supported_of_mem_methodNames (sound : draft.IsSound) :
    ∀ method ∈ draft.methodNames, method ∈ supportedMethods := by
  intro method methodMem
  rcases List.mem_filter.mp methodMem with ⟨methodMem, named⟩
  rcases List.mem_map.mp methodMem with ⟨written, writtenMem, rfl⟩
  exact (List.mem_cons.mp (sound.methods written writtenMem)).resolve_left
    (of_decide_eq_true named)

theorem IsSound.exists_describes (sound : draft.IsSound) :
    ∃ rule, draft.rule? = some rule ∧ Describes draft rule := by
  rcases sound.disposition with ⟨disposition, known⟩
  rcases sound.matcher with ⟨kind, found, isWord, matcher, made⟩
  have nonempty : draft.matchValue ≠ "" := by simpa using isWord.nonempty
  have matched : draft.matcher? = some matcher := by
    rw [matcher?, if_neg nonempty, found, Option.bind_some, made]
  simp only [rule?, known, matched, Option.bind_eq_bind, Option.bind_some]
  refine ⟨_, rfl, ?_⟩
  constructor
  case disposition => exact known
  case matcher =>
      exact ⟨matcher, rfl, (PathMatcher.kind_of_make? made).symm ▸ found,
        (PathMatcher.value_of_make? made).symm⟩
  case methods =>
      intro method
      have supported := sound.supported_of_mem_methodNames method
      rw [mem_methodSet]
      split
      case isTrue unnamed => simp [unnamed]
      case isFalse named => simpa [named] using supported
  case ttl =>
      cases given : draft.ttl with
      | none => rfl
      | some ttl =>
          have nonneg : 0 ≤ ttl.toInt := by
            have notNegative := sound.ttl ttl given
            rw [Int64.lt_iff_toInt_lt] at notNegative
            exact Int.not_lt.mp notNegative
          simp only [if_neg (sound.ttl ttl given), Option.map_some, Option.getD_some]
          rw [← Int64.toNat_toInt, Int.toNat_of_nonneg nonneg]
  case vary => rfl

theorem Describes.isWritable (describes : Describes draft rule) (sound : draft.IsSound) :
    rule.IsWritable := by
  constructor
  case matcher =>
      intro matcher given
      rcases describes.matcher with ⟨described, same, -, value⟩
      rcases sound.matcher with ⟨-, -, isWord, -⟩
      rw [same] at given
      cases given
      exact value ▸ isWord
  case methods =>
      intro method methodMem
      exact isEntry_of_mem_supportedMethods method ((describes.methods method).mp methodMem).1
  case ttl =>
      have given := describes.ttl
      change rule.ttl < 2 ^ 63
      cases found : draft.ttl with
      | none =>
          rw [found] at given
          change (rule.ttl : Int) = (600 : Nat) at given
          omega
      | some ttl =>
          have bound := ttl.toInt_lt
          rw [found] at given
          change (rule.ttl : Int) = ttl.toInt at given
          omega
  case vary =>
      intro header headerMem
      rw [describes.vary] at headerMem
      rcases List.mem_filter.mp headerMem with ⟨headerMem, named⟩
      rcases List.mem_map.mp headerMem with ⟨written, writtenMem, rfl⟩
      rcases sound.vary written writtenMem with ⟨whole, plain⟩
      have nonempty : Text.trim written ≠ "" := of_decide_eq_true named
      exact ⟨⟨by simpa only [ne_eq, String.toList_eq_nil_iff] using nonempty, plain⟩, whole⟩

theorem Describes.isAcceptable (describes : Describes draft rule) (sound : draft.IsSound) :
    rule.IsAcceptable := by
  constructor
  case writable => exact describes.isWritable sound
  case matcher =>
      rcases describes.matcher with ⟨matcher, given, -⟩
      exact ⟨matcher, given⟩
  case methods =>
      intro method methodMem
      exact ((describes.methods method).mp methodMem).1

/-- The rule of a draft names its methods. -/
theorem Describes.methods_ne_nil (describes : Describes draft rule) (sound : draft.IsSound) :
    rule.methods.toList ≠ [] := by
  have named : ∃ method, method ∈ supportedMethods ∧
      (draft.methodNames = [] ∨ method ∈ draft.methodNames) := by
    cases names : draft.methodNames with
    | nil => exact ⟨"GET", by decide, .inl rfl⟩
    | cons method rest =>
        have methodMem : method ∈ draft.methodNames := names ▸ List.mem_cons_self
        exact ⟨method, sound.supported_of_mem_methodNames method methodMem,
          .inr List.mem_cons_self⟩
  rcases named with ⟨method, named⟩
  exact List.ne_nil_of_mem ((describes.methods method).mpr named)

/-- A draft describes one rule. -/
theorem Describes.unique {other : CacheRule} (describes : Describes draft rule)
    (also : Describes draft other) : rule = other := by
  have disposition := Option.some.inj (describes.disposition.symm.trans also.disposition)
  have matcher : rule.matcher = other.matcher := by
    rcases describes.matcher with ⟨matcher, given, kind, value⟩
    rcases also.matcher with ⟨otherMatcher, otherGiven, otherKind, otherValue⟩
    have sameKind := Option.some.inj (kind.symm.trans otherKind)
    have same := PathMatcher.make?_self matcher
    rw [sameKind, ← value, otherValue, PathMatcher.make?_self] at same
    rw [given, otherGiven, Option.some.inj same]
  have methods : rule.methods = other.methods := by
    apply MethodSet.ext_of_mem
    intro method
    rw [describes.methods, also.methods]
  have ttl : rule.ttl = other.ttl := Int.ofNat.inj (describes.ttl.trans also.ttl.symm)
  rcases rule
  rcases other
  rw [CacheRule.mk.injEq]
  exact ⟨disposition, matcher, methods, ttl, describes.vary.trans also.vary.symm⟩

end RuleDraft

namespace CacheRule

variable {rule : CacheRule} {matcher : PathMatcher}

theorem isUsable_matcher (isWord : IsWord matcher.value.toList) :
    IsUsable (matcher.kind.key, matcher.value) := by
  refine optionDefects_eq_nil_iff.mp ?_
  simp only [optionDefects, MatchKind.ofKey?_eq_some_iff.mpr rfl]
  rw [Option.toList_eq_nil_iff, matchDefect_eq_none_iff]
  exact ⟨isWord, matcher, PathMatcher.make?_self matcher⟩

theorem IsWritable.isUsable_methods (writable : rule.IsWritable)
    (supported : ∀ method ∈ rule.methods.toList, method ∈ supportedMethods) :
    IsUsable ("methods", Text.join "," rule.methods.toList) := by
  refine optionDefects_eq_nil_iff.mp ?_
  change (Text.commaList (Text.join "," rule.methods.toList)).filterMap methodDefect = []
  rw [Text.commaList_join fun method methodMem => (writable.methods method methodMem).1]
  refine List.filterMap_eq_nil_iff.mpr fun method methodMem => methodDefect_eq_none_iff.mpr ?_
  rcases writable.methods method methodMem with ⟨isEntry, capital⟩
  rw [isEntry.plain.trim_eq, capital]
  exact List.mem_cons_of_mem "" (supported method methodMem)

theorem IsWritable.isUsable_ttl (writable : rule.IsWritable) :
    IsUsable ("ttl", toString rule.ttl) := by
  refine optionDefects_eq_nil_iff.mp ?_
  change (ttlDefect (toString rule.ttl)).toList = []
  rw [Option.toList_eq_nil_iff, ttlDefect_eq_none_iff]
  exact ⟨rule.ttl, ttl?_eq_some_iff.mpr (Text.int64?_toString writable.ttl)⟩

theorem IsWritable.isUsable_vary (writable : rule.IsWritable) :
    IsUsable ("vary", Text.join "," rule.vary) := by
  refine optionDefects_eq_nil_iff.mp ?_
  change (Text.commaList (Text.join "," rule.vary)).filterMap varyDefect = []
  rw [Text.commaList_join writable.vary]
  refine List.filterMap_eq_nil_iff.mpr fun header headerMem => varyDefect_eq_none_iff.mpr ?_
  have isEntry := writable.vary header headerMem
  rw [isEntry.plain.trim_eq]
  exact ⟨isEntry.whole, isEntry.plain⟩

theorem matchersOf_optionsOf (given : rule.matcher = some matcher) :
    matchersOf rule.optionsOf = [(matcher.kind.key, matcher.value)] := by
  have found : (MatchKind.ofKey? matcher.kind.key).isSome := by
    rw [MatchKind.ofKey?_eq_some_iff.mpr rfl]
    rfl
  rw [matchersOf, optionsOf, given]
  have other : ∀ key ∈ otherKeys, MatchKind.ofKey? key = none := fun _ => MatchKind.ofKey?_eq_none
  have methods := other "methods" (by decide)
  have ttl := other "ttl" (by decide)
  have vary := other "vary" (by decide)
  cases rule.methods.isEmpty <;> cases rule.vary.isEmpty <;> simp [found, methods, ttl, vary]

theorem IsAcceptable.isSound (acceptable : rule.IsAcceptable) (number : Nat) :
    IsSound ⟨number, rule.wordsOf⟩ := by
  rcases acceptable with ⟨writable, ⟨matcher, given⟩, supported⟩
  constructor
  case keyword => exact ⟨rule.disposition, keyword_wordsOf rule number⟩
  case usable =>
      rw [options_wordsOf]
      intro option optionMem
      simp only [optionsOf, given, List.append_assoc, List.mem_append, List.mem_singleton,
        List.mem_ite_nil_left, Option.toList_some, List.map_cons, List.map_nil] at optionMem
      rcases optionMem with rfl | ⟨-, rfl⟩ | rfl | ⟨-, rfl⟩
      · exact isUsable_matcher (writable.matcher matcher given)
      · exact writable.isUsable_methods supported
      · exact writable.isUsable_ttl
      · exact writable.isUsable_vary
  case matcher =>
      rw [options_wordsOf, matchersOf_optionsOf given]
      rfl

end CacheRule

namespace RuleDraft

variable {drafts : List RuleDraft} {ruleset : Ruleset CacheRule}

theorem messagesFrom_eq_nil_iff {position : Nat} :
    messagesFrom position drafts = [] ↔ ∀ draft ∈ drafts, draft.IsSound := by
  induction drafts generalizing position with
  | nil => exact ⟨fun _ => nofun, fun _ => rfl⟩
  | cons draft rest ih =>
      rw [messagesFrom, List.append_eq_nil_iff, List.map_eq_nil_iff, defects_eq_nil_iff, ih,
        List.forall_mem_cons]

theorem isOk_report_iff : (report drafts).isOk ↔ ∀ draft ∈ drafts, draft.IsSound := by
  rw [Report.isOk, List.isEmpty_iff, report, messagesFrom_eq_nil_iff]

/-- Drafts are accepted if all of them are sound, and each of them is one rule. -/
theorem forall₂_of_build (built : build drafts = .ok ruleset) :
    List.Forall₂ (fun draft rule => draft.IsSound ∧ Describes draft rule) drafts
      ruleset.rules := by
  unfold build at built
  split at built
  case isFalse => cases built
  case isTrue clean =>
    cases built
    have sound := isOk_report_iff.mp clean
    clear clean
    induction drafts with
    | nil => exact .nil
    | cons draft rest ih =>
        rw [List.forall_mem_cons] at sound
        rcases sound.1.exists_describes with ⟨rule, read, describes⟩
        rw [List.filterMap_cons_some read]
        exact .cons ⟨sound.1, describes⟩ (ih sound.2)

theorem exists_draft_of_build (built : build drafts = .ok ruleset) :
    ∀ rule ∈ ruleset.rules, ∃ draft : RuleDraft, draft.IsSound ∧ Describes draft rule := by
  have related := forall₂_of_build built
  generalize ruleset.rules = rules at related
  clear built
  induction related with
  | nil => exact nofun
  | cons described _ ih =>
      rw [List.forall_mem_cons]
      exact ⟨⟨_, described⟩, ih⟩

theorem isAcceptable_of_build (built : build drafts = .ok ruleset) :
    ∀ rule ∈ ruleset.rules, rule.IsAcceptable := by
  intro rule ruleMem
  rcases exists_draft_of_build built rule ruleMem with ⟨draft, sound, describes⟩
  exact describes.isAcceptable sound

theorem parse_cacheFile (built : build drafts = .ok ruleset) :
    cacheGrammar.parse ruleset.cacheFile = ruleset := by
  have keeps : ∀ rule ∈ ruleset.rules, cacheGrammar.Keeps rule rule.wordsOf :=
    fun rule ruleMem => (isAcceptable_of_build built rule ruleMem).writable.keeps
  exact Grammar.parse_of_map_tokens keeps (Ruleset.map_tokens_cacheFile keeps)

theorem isOk_validate_cacheFile (built : build drafts = .ok ruleset) :
    (cacheGrammar.validate ruleset.cacheFile).isOk := by
  have acceptable := isAcceptable_of_build built
  have clean : ∀ rule ∈ ruleset.rules, ∀ number,
      (CacheRule.check ⟨number, rule.wordsOf⟩).messages = [] := by
    intro rule ruleMem number
    have sound := (acceptable rule ruleMem).isSound number
    rw [CacheRule.check, CacheRule.lineDefects_eq_nil_iff.mpr sound]
    rfl
  exact List.isEmpty_iff.mpr (Grammar.messages_validate_of_map_tokens clean
    (Ruleset.map_tokens_cacheFile fun rule ruleMem => (acceptable rule ruleMem).writable.keeps))

end RuleDraft

theorem PolicyFile.textOf_drafts {policy : PolicyFile CacheRule} {drafts : List RuleDraft}
    {ruleset : Ruleset CacheRule} (ofCache : policy.grammar = cacheGrammar)
    (built : RuleDraft.build drafts = .ok ruleset) :
    policy.textOf (.drafts drafts) = .ok ruleset.cacheFile := by
  have sound : (policy.validate ruleset.cacheFile).isOk := by
    rw [PolicyFile.validate, ofCache]
    exact RuleDraft.isOk_validate_cacheFile built
  rw [PolicyFile.textOf, built, Except.bind, PolicyFile.checked, if_pos sound]

namespace Ruleset

variable {drafts : List RuleDraft} {ruleset : Ruleset CacheRule}

/-- The file of a ruleset holds the rules of drafts, and nothing refuses it. -/
structure SurvivesFile (ruleset : Ruleset CacheRule) (drafts : List RuleDraft) : Prop where
  /-- There is one rule for each draft, in order. -/
  described : List.Forall₂ RuleDraft.Describes drafts ruleset.rules
  /-- Strict checking finds no defect in the file. -/
  sound : (cacheGrammar.validate ruleset.cacheFile).isOk
  /-- The file is read as the ruleset. -/
  reread : cacheGrammar.parse ruleset.cacheFile = ruleset
  /-- No report refuses a commit of the drafts. -/
  accepted : ∀ policy : PolicyFile CacheRule, policy.grammar = cacheGrammar →
    ∀ volume time condition report,
      (policy.commitDrafts volume time drafts condition).1 ≠ .error (.invalid report)
  /-- A commit of the drafts that succeeds leaves the file with the rules, and publishes them if
  the disk lets it load what it has written. -/
  published : ∀ policy : PolicyFile CacheRule, policy.grammar = cacheGrammar →
    ∀ volume : Volume, volume.WellFormed → ∀ time condition token rules after,
      policy.commitDrafts volume time drafts condition = (.ok (.committed token rules), after) →
        after.2.at? policy.path = some (.file (Text.encode ruleset.cacheFile)) ∧
          (volume.refusal .read = none →
            after.1.published = some ruleset ∧ rules = ruleset.size)

theorem survives_file (built : RuleDraft.build drafts = .ok ruleset) :
    ruleset.SurvivesFile drafts := by
  have reread := RuleDraft.parse_cacheFile built
  constructor
  case described => exact (RuleDraft.forall₂_of_build built).imp fun _ _ => And.right
  case sound => exact RuleDraft.isOk_validate_cacheFile built
  case reread => exact reread
  case accepted =>
      intro policy ofCache volume time condition report
      have committed := policy.submit_eq volume time (.drafts drafts) condition
      rw [PolicyFile.textOf_drafts ofCache built] at committed
      change (policy.submit volume time (.drafts drafts) condition).1 ≠ .error (.invalid report)
      rw [committed]
      exact PolicyFile.commitBytes_ne_invalid
  case published =>
      intro policy ofCache volume wellFormed time condition token rules after committed
      have submitted :=
        PolicyFile.submitted_submit wellFormed policy time (.drafts drafts) condition
      change policy.submit volume time (.drafts drafts) condition = _ at committed
      rw [committed] at submitted
      cases submitted with
      | committed written replaces loads =>
          rw [PolicyFile.textOf_drafts ofCache built] at written
          cases written
          refine ⟨replaces.written, fun _ => ?_⟩
          rw [PolicyFile.loaded, PolicyFile.publish, ofCache, reread]
          exact ⟨rfl, rfl⟩
      | unloaded written replaces refused =>
          rw [PolicyFile.textOf_drafts ofCache built] at written
          cases written
          refine ⟨replaces.written, fun loads => ?_⟩
          rw [refused] at loads
          cases loads

end Ruleset

end

/-- Keys and methods in any case, a value with an equals sign and a number sign, and a draft that
leaves out all that it may. -/
theorem Ruleset.survives_file_two_drafts :
    Ruleset.SurvivesFile
      ⟨[⟨.allow, some (.beginning "/a=#b"), .ofList ["GET"], 5, ["Accept", "Origin"]⟩,
        ⟨.deny, some (.exact "/c,d"), .ofList ["GET", "HEAD"], 600, []⟩]⟩
      [⟨"allow", "PREFIX", "/a=#b", [" get ", ""], some 5, ["Accept", " Origin "]⟩,
        ⟨"Deny", "exact", "/c,d", [], none, []⟩] :=
  Ruleset.survives_file (by decide +kernel)

end Gatehouse
