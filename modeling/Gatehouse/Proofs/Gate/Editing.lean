import Gatehouse.Pattern.Engine
import Gatehouse.Proofs.Gate.Varying

/-!
# Policies that are edited in structured form

The structured form of a ruleset names the methods that an empty set stands for.  Taken
back in as it is shown, it is a ruleset with the names in place of the empty sets, and
no response is marked otherwise under it: only `GET` and `HEAD` are marked, and these
are the names.  What was built from structured form once has its names already, so it
comes back as it is.
-/

namespace Gatehouse

open Http (Headers)
open Text (IsEntry)

section

variable [PatternEngine]

namespace RuleDraft

variable {rule : CacheRule}

theorem methods_ofRule (rule : CacheRule) : (ofRule rule).methods = rule.shown.methods.toList := by
  have supported : (MethodSet.ofList supportedMethods).toList = supportedMethods := by decide
  unfold ofRule CacheRule.shown
  dsimp only
  split
  case isTrue => exact supported.symm
  case isFalse => rfl

/-- No time to live that is written in a policy is cut to the range of structured form. -/
theorem ttl_ofRule (writable : rule.IsWritable) :
    ∃ ttl, (ofRule rule).ttl = some ttl ∧ ttl.toInt = rule.ttl := by
  have fits : rule.ttl < 2 ^ 63 := writable.ttl
  have kept : min rule.ttl greatestTtl = rule.ttl := by
    apply Nat.min_eq_left
    change rule.ttl ≤ 2 ^ 63 - 1
    omega
  refine ⟨.ofNat rule.ttl, ?_, Int64.toInt_ofNat_of_lt fits⟩
  rw [ofRule, kept]

theorem disposition_ofRule (rule : CacheRule) :
    Disposition.parse? (ofRule rule).kind = some rule.disposition := by
  change Disposition.parse? rule.disposition.keyword = some rule.disposition
  cases rule.disposition <;> rfl

theorem matcher_ofRule {matcher : PathMatcher} (given : rule.matcher = some matcher) :
    (ofRule rule).matchKind? = some matcher.kind ∧ (ofRule rule).matchValue = matcher.value := by
  have key := (CacheRule.isKey_of_matchKind matcher.kind).small
  constructor
  · simp [matchKind?, ofRule, given, key, MatchKind.ofKey?_eq_some_iff]
  · simp [ofRule, given]

end RuleDraft

namespace CacheRule

variable {rule : CacheRule} {method path : String}

theorem methods_shown_ne_nil (rule : CacheRule) : rule.shown.methods.toList ≠ [] := by
  unfold shown
  dsimp only
  split
  case isTrue => decide
  case isFalse named => exact fun unnamed => named (List.isEmpty_iff.mpr unnamed)

theorem shown_eq_self (named : rule.methods.toList ≠ []) : rule.shown = rule := by
  have limited : ¬rule.methods.isEmpty := fun unnamed => named (List.isEmpty_iff.mp unnamed)
  rw [shown, if_neg limited]

/-- The names that are shown are read as they are. -/
theorem IsAcceptable.methods_shown (acceptable : rule.IsAcceptable)
    (methodMem : method ∈ rule.shown.methods.toList) :
    method ∈ supportedMethods ∧ Text.asciiUpper (Text.trim method) = method ∧ method ≠ "" := by
  have supported := ((mem_methods_shown acceptable.methods).mp methodMem).1
  rcases RuleDraft.isEntry_of_mem_supportedMethods method supported with ⟨isEntry, capital⟩
  rw [isEntry.plain.trim_eq]
  exact ⟨supported, capital, by simpa using isEntry.nonempty⟩

theorem IsAcceptable.methodNames_ofRule (acceptable : rule.IsAcceptable) :
    (RuleDraft.ofRule rule).methodNames = rule.shown.methods.toList := by
  have read : ∀ method ∈ rule.shown.methods.toList,
      Text.asciiUpper (Text.trim method) = method ∧ method ≠ "" :=
    fun _ methodMem => (acceptable.methods_shown methodMem).2
  rw [RuleDraft.methodNames, RuleDraft.methods_ofRule,
    List.map_congr_left fun method methodMem => (read method methodMem).1, List.map_id',
    List.filter_eq_self]
  exact fun method methodMem => decide_eq_true (read method methodMem).2

/-- The draft that shows a rule is in order. -/
theorem IsAcceptable.isSound_ofRule (acceptable : rule.IsAcceptable) :
    (RuleDraft.ofRule rule).IsSound := by
  constructor
  case disposition => exact ⟨rule.disposition, RuleDraft.disposition_ofRule rule⟩
  case matcher =>
      rcases acceptable.matcher with ⟨matcher, given⟩
      rcases RuleDraft.matcher_ofRule given with ⟨kind, value⟩
      rw [value]
      exact ⟨matcher.kind, kind, acceptable.writable.matcher matcher given, matcher,
        PathMatcher.make?_self matcher⟩
  case methods =>
      intro method methodMem
      rw [RuleDraft.methods_ofRule] at methodMem
      rcases acceptable.methods_shown methodMem with ⟨supported, read, -⟩
      rw [read]
      exact List.mem_cons_of_mem "" supported
  case ttl =>
      rcases RuleDraft.ttl_ofRule acceptable.writable with ⟨ttl, given, same⟩
      intro other otherMem
      rw [given] at otherMem
      cases otherMem
      rw [Int64.lt_iff_toInt_lt, same, Int64.toInt_zero]
      omega
  case vary =>
      intro header headerMem
      have isEntry := acceptable.writable.vary header headerMem
      rw [isEntry.plain.trim_eq]
      exact ⟨isEntry.whole, isEntry.plain⟩

theorem IsAcceptable.describes_shown (acceptable : rule.IsAcceptable) :
    RuleDraft.Describes (.ofRule rule) rule.shown := by
  constructor
  case disposition => exact RuleDraft.disposition_ofRule rule
  case matcher =>
      rcases acceptable.matcher with ⟨matcher, given⟩
      exact ⟨matcher, given, RuleDraft.matcher_ofRule given⟩
  case methods =>
      intro method
      rw [acceptable.methodNames_ofRule, or_iff_right rule.methods_shown_ne_nil]
      constructor
      · intro methodMem
        exact ⟨(acceptable.methods_shown methodMem).1, methodMem⟩
      · exact And.right
  case ttl =>
      rcases RuleDraft.ttl_ofRule acceptable.writable with ⟨ttl, given, same⟩
      rw [given, Option.map_some, Option.getD_some, same]
      rfl
  case vary =>
      have entries : ∀ header ∈ rule.vary, IsEntry header := acceptable.writable.vary
      change rule.vary = (rule.vary.map Text.trim).filter fun header => header ≠ ""
      rw [List.map_congr_left fun header headerMem => (entries header headerMem).plain.trim_eq,
        List.map_id', eq_comm, List.filter_eq_self]
      intro header headerMem
      simpa using (entries header headerMem).nonempty

theorem IsAcceptable.rule?_ofRule (acceptable : rule.IsAcceptable) :
    (RuleDraft.ofRule rule).rule? = some rule.shown := by
  rcases acceptable.isSound_ofRule.exists_describes with ⟨other, read, also⟩
  rw [read, also.unique acceptable.describes_shown]

/-- A rule is shown to cover what it covers among the requests whose responses are marked. -/
theorem covers_shown (supported : method ∈ supportedMethods) :
    rule.shown.covers method path = rule.covers method path := by
  have all : (MethodSet.ofList supportedMethods).contains method = true := by
    rw [MethodSet.contains, List.contains_iff_mem]
    exact MethodSet.mem_ofList.mpr supported
  unfold covers shown
  dsimp only
  split
  case isTrue unlimited => simp [unlimited, all]
  case isFalse => rfl

end CacheRule

namespace Ruleset

variable {ruleset : Ruleset CacheRule} {method path : String}

/-- The ruleset with the methods of its rules named. -/
def shown (ruleset : Ruleset CacheRule) : Ruleset CacheRule :=
  ⟨ruleset.rules.map CacheRule.shown⟩

theorem build_drafts (acceptable : ∀ rule ∈ ruleset.rules, rule.IsAcceptable) :
    RuleDraft.build ruleset.drafts = .ok ruleset.shown := by
  have clean : (RuleDraft.report ruleset.drafts).isOk := by
    rw [RuleDraft.isOk_report_iff, drafts, List.forall_mem_map]
    exact fun rule ruleMem => (acceptable rule ruleMem).isSound_ofRule
  have rules : ruleset.drafts.filterMap RuleDraft.rule? = ruleset.rules.map CacheRule.shown := by
    rw [drafts, List.filterMap_map, ← List.filterMap_eq_map]
    apply List.filterMap_congr
    intro rule ruleMem
    exact (acceptable rule ruleMem).rule?_ofRule
  rw [RuleDraft.build, if_pos clean, rules]
  rfl

theorem decidingPosition_shown (supported : Text.asciiUpper method ∈ supportedMethods) :
    ruleset.shown.decidingPosition method path = ruleset.decidingPosition method path := by
  simp only [decidingPosition, shown, List.findIdx?_map, Function.comp_def,
    CacheRule.covers_shown supported]

theorem allowingRule_shown (supported : Text.asciiUpper method ∈ supportedMethods) :
    ruleset.shown.allowingRule method path =
      (ruleset.allowingRule method path).map CacheRule.shown := by
  simp only [allowingRule, decidingRule, shown, List.find?_map, Function.comp_def,
    CacheRule.covers_shown supported, Option.filter_map]
  rfl

theorem annotateCache_shown (headers : Headers) (ruleset : Ruleset CacheRule)
    (method path : String) :
    annotateCache headers ruleset.shown method path =
      annotateCache headers ruleset method path := by
  unfold annotateCache
  split
  case isTrue marked =>
    have supported : Text.asciiUpper method ∈ supportedMethods := by
      rcases isMarkedMethod_iff.mp marked with rfl | rfl <;> decide
    rw [allowingRule_shown supported]
    cases ruleset.allowingRule method path <;> rfl
  case isFalse => rfl

/-- What decides about requests is the same under both rulesets. -/
structure DecidesAs (edited ruleset : Ruleset CacheRule) : Prop where
  /-- Responses are marked in the same way. -/
  marks : ∀ headers method path,
    annotateCache headers edited method path = annotateCache headers ruleset method path
  /-- The rules that decide stand at the same place. -/
  position : ∀ method path, Text.asciiUpper method ∈ supportedMethods →
    edited.decidingPosition method path = ruleset.decidingPosition method path

theorem shown_decidesAs (ruleset : Ruleset CacheRule) : ruleset.shown.DecidesAs ruleset where
  marks headers method path := annotateCache_shown headers ruleset method path
  position _ _ supported := decidingPosition_shown supported

/-- A ruleset from structured form has its methods named. -/
theorem shown_of_build {drafts : List RuleDraft} (built : RuleDraft.build drafts = .ok ruleset) :
    ruleset.shown = ruleset := by
  have same : ∀ rule ∈ ruleset.rules, rule.shown = rule := by
    intro rule ruleMem
    rcases RuleDraft.exists_draft_of_build built rule ruleMem with ⟨draft, sound, describes⟩
    exact CacheRule.shown_eq_self (describes.methods_ne_nil sound)
  rw [shown, List.map_congr_left same, List.map_id']

/-- Taking in what is shown of a policy changes no decision, and nothing at all in a policy that
was taken in before. -/
theorem view_taken_back :
    (∀ text, (cacheGrammar.validate text).isOk →
      ∃ edited, RuleDraft.build (cacheGrammar.parse text).drafts = .ok edited ∧
        edited.DecidesAs (cacheGrammar.parse text)) ∧
    ∀ drafts ruleset, RuleDraft.build drafts = .ok ruleset →
      RuleDraft.build ruleset.drafts = .ok ruleset := by
  constructor
  · intro text sound
    have accepted : (cacheGrammar.parse text).IsAccepted := .text sound
    exact ⟨_, build_drafts accepted.isAcceptable, shown_decidesAs _⟩
  · intro drafts ruleset built
    have taken := build_drafts (RuleDraft.isAcceptable_of_build built)
    rw [shown_of_build built] at taken
    exact taken

end Ruleset

end

namespace Ruleset

/-- A text that leaves the methods open, and a draft that leaves out all that it may. -/
theorem view_taken_back_two :
    (∃ edited,
      RuleDraft.build (cacheGrammar.parse "deny PREFIX=/a\nallow regex=^/ ttl=0\n").drafts =
        .ok edited ∧
      edited.DecidesAs (cacheGrammar.parse "deny PREFIX=/a\nallow regex=^/ ttl=0\n")) ∧
    RuleDraft.build (drafts ⟨[⟨.deny, some (.exact "/c"), .ofList ["GET", "HEAD"], 600, []⟩]⟩) =
      .ok ⟨[⟨.deny, some (.exact "/c"), .ofList ["GET", "HEAD"], 600, []⟩]⟩ :=
  ⟨view_taken_back.1 _ (by decide +kernel),
    view_taken_back.2 [⟨"Deny", "exact", "/c", [], none, []⟩] _ (by decide +kernel)⟩

end Ruleset

end Gatehouse
