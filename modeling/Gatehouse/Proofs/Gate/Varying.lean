import Gatehouse.Pattern.Engine
import Gatehouse.Proofs.Cache.Drafts
import Gatehouse.Proofs.Cache.Losses
import Gatehouse.Proofs.Gate.Marking

/-!
# What marked responses vary by

A response that is marked under a rule with a list of headers names the list in
`Vary`, so that a cache keeps its variants apart.  Strict checking keeps blanks
and commas out of the list, because it is written as one word, and asks for
nothing else.

No header can hold a control character.  A list with one in it is dropped where
the header would be set, and the mark goes out with the `Vary` that the response
had before.
-/

namespace Gatehouse

open Http (Headers HeaderValue)
open Text (IsEntry)

/-- A control character of ASCII occurs in the text. -/
def HasControl (text : String) : Prop :=
  ∃ character ∈ text.toList, character.toNat < 32 ∨ character.toNat = 127

/-- Of the characters that stand in an entry, only control characters keep it out of a header: a
tab is a blank. -/
theorem settable_iff_of_isEntry {entry : String} (isEntry : IsEntry entry) :
    (∀ character ∈ entry.toList, HeaderValue.IsSettable character) ↔ ¬HasControl entry := by
  simp only [HasControl, not_exists, not_and, not_or, not_lt]
  refine forall₂_congr fun character characterMem => ?_
  have notTab : character.toNat ≠ 9 := by
    intro tab
    have visible := isEntry.plain character characterMem
    simp [Text.isBlank, tab] at visible
  rw [HeaderValue.IsSettable, or_iff_right notTab]

section

variable [PatternEngine]

/-- The rulesets that strict checking lets through, as a text or in structured form. -/
inductive Ruleset.IsAccepted : Ruleset CacheRule → Prop
  | text {text : String} (sound : (cacheGrammar.validate text).isOk) :
      IsAccepted (cacheGrammar.parse text)
  | drafts {drafts : List RuleDraft} {ruleset : Ruleset CacheRule}
      (built : RuleDraft.build drafts = .ok ruleset) : IsAccepted ruleset

variable {ruleset : Ruleset CacheRule} {method path : String} {rule : CacheRule} {entry : String}

/-- Reading loses nothing of a text that strict checking lets through. -/
theorem Ruleset.IsAccepted.isAcceptable (accepted : ruleset.IsAccepted) :
    ∀ rule ∈ ruleset.rules, rule.IsAcceptable := by
  cases accepted with
  | @text text sound =>
      intro rule ruleMem
      rcases List.mem_filterMap.mp ruleMem with ⟨line, lineMem, read⟩
      have content := RuleLine.isContent_of_mem_all lineMem
      rcases (CacheRule.isSound_of_isOk sound lineMem).exists_faithful content with
        ⟨other, also, faithful⟩
      have same : rule = other := Option.some.inj (read.symm.trans also)
      rcases faithful.matcher with ⟨matcher, given, -⟩
      subst same
      exact ⟨(CacheRule.ofLine?_eq_some_iff.mp read).isWritable content.words, ⟨matcher, given⟩,
        faithful.methods⟩
  | drafts built => exact RuleDraft.isAcceptable_of_build built

theorem Ruleset.IsAccepted.isEntry (accepted : ruleset.IsAccepted) (ruleMem : rule ∈ ruleset.rules)
    (entryMem : entry ∈ rule.vary) : IsEntry entry :=
  (accepted.isAcceptable rule ruleMem).writable.vary entry entryMem

theorem settable_varyText_iff (entries : ∀ entry ∈ rule.vary, IsEntry entry) :
    (∀ character ∈ (varyText rule).toList, HeaderValue.IsSettable character) ↔
      ∀ entry ∈ rule.vary, ¬HasControl entry := by
  rw [varyText, Text.forall_mem_join (by simp [HeaderValue.IsSettable])]
  exact forall₂_congr fun entry entryMem => settable_iff_of_isEntry (entries entry entryMem)

/-- What is marked under a rule with a list of headers. -/
structure Varies (before after : Headers) (rule : CacheRule) : Prop where
  marked : after.values HeaderName.cacheable = [HeaderValue.ofText "1"]
  /-- A list without control characters is what the response varies by. -/
  listed : (∀ entry ∈ rule.vary, ¬HasControl entry) →
    after.values HeaderName.vary = [HeaderValue.ofText (Text.join ", " rule.vary)]
  /-- Any other list is dropped. -/
  dropped : (∃ entry ∈ rule.vary, HasControl entry) →
    after.values HeaderName.vary = before.values HeaderName.vary

theorem annotateCache_varies (accepted : ruleset.IsAccepted)
    (marks : ruleset.Marks method path rule) (given : rule.vary ≠ []) (headers : Headers) :
    Varies headers (annotateCache headers ruleset method path) rule := by
  have ruleMem : rule ∈ ruleset.rules := by
    rcases marks.first with ⟨before, behind, rules, -⟩
    simp [rules]
  have settable := settable_varyText_iff fun _ entryMem => accepted.isEntry ruleMem entryMem
  have written : markCacheable headers rule = ((headers.set HeaderName.cacheable "1").set
      HeaderName.expires (toString (markedTtl rule))).set HeaderName.vary (varyText rule) :=
    if_neg (by simpa using given)
  rw [Ruleset.annotateCache_of_marks marks]
  constructor
  case marked => exact values_cacheable_markCacheable headers rule
  case listed =>
      intro clean
      rw [written]
      exact Headers.values_set_of_settable _ _ (settable.mpr clean)
  case dropped =>
      rintro ⟨entry, entryMem, control⟩
      have unsettable : ¬∀ character ∈ (varyText rule).toList, HeaderValue.IsSettable character :=
        fun all => settable.mp all entry entryMem control
      rw [written, Headers.set_of_not_settable _ _ unsettable,
        Headers.values_set_of_ne _ _ (by decide), Headers.values_set_of_ne _ _ (by decide)]

end

/-- A response that varies by two headers. -/
theorem annotateCache_varies_two :
    Ruleset.IsAccepted (cacheGrammar.parse "ALLOW prefix=/ vary=Accept,Origin\n") ∧
      (cacheGrammar.parse "ALLOW prefix=/ vary=Accept,Origin\n").Marks "GET" "/a"
        ⟨.allow, some (.beginning "/"), .empty, 600, ["Accept", "Origin"]⟩ ∧
      Varies ⟨[(HeaderName.vary, HeaderValue.ofText "Cookie")]⟩
        (annotateCache ⟨[(HeaderName.vary, HeaderValue.ofText "Cookie")]⟩
          (cacheGrammar.parse "ALLOW prefix=/ vary=Accept,Origin\n") "GET" "/a")
        ⟨.allow, some (.beginning "/"), .empty, 600, ["Accept", "Origin"]⟩ := by
  have accepted : Ruleset.IsAccepted (cacheGrammar.parse "ALLOW prefix=/ vary=Accept,Origin\n") :=
    .text (by decide +kernel)
  have marks : (cacheGrammar.parse "ALLOW prefix=/ vary=Accept,Origin\n").Marks "GET" "/a"
      ⟨.allow, some (.beginning "/"), .empty, 600, ["Accept", "Origin"]⟩ :=
    Ruleset.marks_iff.mpr (by decide +kernel)
  exact ⟨accepted, marks, annotateCache_varies accepted marks (by decide) _⟩

/-- A control character passes strict checking, and the response is marked without a `Vary`. -/
theorem marked_without_vary :
    (cacheGrammar.validate "ALLOW prefix=/ vary=A\x01\n").isOk ∧
      (cacheGrammar.parse "ALLOW prefix=/ vary=A\x01\n").Marks "GET" "/"
        ⟨.allow, some (.beginning "/"), .empty, 600, ["A\x01"]⟩ ∧
      (annotateCache .empty (cacheGrammar.parse "ALLOW prefix=/ vary=A\x01\n") "GET" "/").values
        HeaderName.cacheable = [HeaderValue.ofText "1"] ∧
      (annotateCache .empty (cacheGrammar.parse "ALLOW prefix=/ vary=A\x01\n") "GET" "/").values
        HeaderName.vary = [] :=
  ⟨by decide +kernel, Ruleset.marks_iff.mpr (by decide +kernel), by decide +kernel,
    by decide +kernel⟩

end Gatehouse
