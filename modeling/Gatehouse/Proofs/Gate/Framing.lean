import Gatehouse.Proofs.Gate.Marking

/-!
# What a mark leaves alone

Marking a response writes three headers at most.  Writing takes away what stood under
these names and puts the new values behind all that is left, so a section that is marked
is the old one without the names, with the marks at its end.  Everything the gate may be
trusted with can be read off this form: the other headers stay, in their order, and a
section that has the marks at its end is marked again as it is.

Where the policy does not mark, nothing is written at all.  A list of headers to vary by
that no header can hold is not written either, and then `Vary` is not touched.
-/

namespace Gatehouse

open Http (Headers HeaderValue)

namespace Http.Headers

variable {headers : Headers} {fields : List (String × HeaderValue)} {name : String}
  {value : HeaderValue}

/-- The section with fields in place of whatever stood under their names. -/
def replaceAll (headers : Headers) (fields : List (String × HeaderValue)) : Headers :=
  ⟨(headers.removeAll (fields.map Prod.fst)).fields ++ fields⟩

theorem replaceAll_nil (headers : Headers) : headers.replaceAll [] = headers := by
  simp [replaceAll, removeAll]

theorem removeAll_replaceAll (headers : Headers) (fields : List (String × HeaderValue)) :
    (headers.replaceAll fields).removeAll (fields.map Prod.fst) =
      headers.removeAll (fields.map Prod.fst) := by
  have written : fields.filter (fun field => !(fields.map Prod.fst).contains field.1) = [] := by
    rw [List.filter_eq_nil_iff]
    intro field fieldMem
    simp [List.mem_map_of_mem fieldMem]
  rw [replaceAll, removeAll, removeAll, List.filter_append, written, List.append_nil,
    List.filter_filter]
  simp only [Bool.and_self]

/-- What has been put in place is put there again. -/
theorem replaceAll_replaceAll (headers : Headers) (fields : List (String × HeaderValue)) :
    (headers.replaceAll fields).replaceAll fields = headers.replaceAll fields := by
  rw [replaceAll, removeAll_replaceAll]
  rfl

theorem insert_replaceAll (absent : name ∉ fields.map Prod.fst) :
    (headers.replaceAll fields).insert name value =
      headers.replaceAll (fields ++ [(name, value)]) := by
  have written : fields.filter (fun field => field.1 ≠ name) = fields := by
    rw [List.filter_eq_self]
    intro field fieldMem
    rw [decide_eq_true_iff]
    rintro rfl
    exact absent (List.mem_map_of_mem fieldMem)
  have left : (headers.removeAll (fields.map Prod.fst)).fields.filter
      (fun field => field.1 ≠ name) =
        (headers.removeAll ((fields ++ [(name, value)]).map Prod.fst)).fields := by
    rw [removeAll, removeAll, List.filter_filter]
    apply List.filter_congr
    intro field _
    rw [Bool.eq_iff_iff]
    simp [and_comm, not_or]
  rw [insert, remove, replaceAll, List.filter_append, written, left, List.append_assoc]
  rfl

theorem values_replaceAll_of_not_mem (absent : name ∉ fields.map Prod.fst) :
    (headers.replaceAll fields).values name = headers.values name := by
  have unwritten : fields.filter (fun field => field.1 == name) = [] := by
    rw [List.filter_eq_nil_iff]
    intro field fieldMem same
    rw [beq_iff_eq] at same
    exact absent (same ▸ List.mem_map_of_mem fieldMem)
  have removed := headers.values_removeAll (fields.map Prod.fst) name
  rw [if_neg (by simpa using absent)] at removed
  rw [← removed, values, values, replaceAll, List.filter_append, unwritten, List.append_nil]

end Http.Headers

theorem vary_notMem : HeaderName.vary ∉ [HeaderName.cacheable, HeaderName.expires] := by
  decide

variable [PatternEngine] {headers : Headers} {ruleset : Ruleset CacheRule} {method path : String}
  {rule : CacheRule}

/-- The list of headers to vary by, as a field, unless it is empty or no header can hold it. -/
def varyField? (rule : CacheRule) : Option (String × HeaderValue) :=
  if rule.vary.isEmpty then none
  else (HeaderValue.ofText? (varyText rule)).map fun value => (HeaderName.vary, value)

/-- The fields that a mark consists of. -/
def markFields (rule : CacheRule) : List (String × HeaderValue) :=
  [(HeaderName.cacheable, HeaderValue.ofText "1"),
    (HeaderName.expires, HeaderValue.ofText (toString (markedTtl rule)))] ++
  (varyField? rule).toList

theorem markCacheable_eq_replaceAll (headers : Headers) (rule : CacheRule) :
    markCacheable headers rule = headers.replaceAll (markFields rule) := by
  have one := HeaderValue.ofText?_of_printable (@Http.printable_of_all "1" (by decide))
  have ttl := HeaderValue.ofText?_of_printable (Http.isPrintable_toString (markedTtl rule))
  have marked : (headers.set HeaderName.cacheable "1").set HeaderName.expires
      (toString (markedTtl rule)) =
        headers.replaceAll [(HeaderName.cacheable, HeaderValue.ofText "1"),
          (HeaderName.expires, HeaderValue.ofText (toString (markedTtl rule)))] := by
    rw [Headers.set, Headers.set, one, ttl]
    dsimp only
    nth_rewrite 1 [← headers.replaceAll_nil]
    rw [Headers.insert_replaceAll (by simp), Headers.insert_replaceAll (by decide)]
    rfl
  rw [markCacheable, marked, markFields, varyField?]
  split
  case isTrue => simp
  case isFalse =>
    rw [Headers.set]
    cases HeaderValue.ofText? (varyText rule) with
    | none => simp
    | some value => exact Headers.insert_replaceAll vary_notMem

namespace Ruleset

/-- The rule is the first that covers a method and a path. -/
structure Decides (ruleset : Ruleset CacheRule) (method path : String) (rule : CacheRule) :
    Prop where
  covers : rule.covers (Text.asciiUpper method) path
  first : ∃ before behind, ruleset.rules = before ++ rule :: behind ∧
    ∀ earlier ∈ before, ¬earlier.covers (Text.asciiUpper method) path

theorem decidingRule_eq_some_iff :
    ruleset.decidingRule method path = some rule ↔ ruleset.Decides method path rule := by
  rw [decidingRule, List.find?_eq_some_iff_append]
  simp only [Bool.not_eq_true', ← Bool.not_eq_true]
  constructor
  · intro found
    exact ⟨found.1, found.2⟩
  · intro decides
    exact ⟨decides.covers, decides.first⟩

theorem marks_iff_decides :
    ruleset.Marks method path rule ↔
      (method = "GET" ∨ method = "HEAD") ∧ ruleset.Decides method path rule ∧
        rule.disposition = .allow := by
  rw [marks_iff, isMarkedMethod_iff, allowingRule, Option.filter_eq_some_iff,
    decidingRule_eq_some_iff, decide_eq_true_iff]

theorem Decides.unique {other : CacheRule} (decides : ruleset.Decides method path rule)
    (also : ruleset.Decides method path other) : rule = other := by
  rw [← decidingRule_eq_some_iff] at decides also
  exact Option.some.inj (decides.symm.trans also)

end Ruleset

/-- What becomes of the headers of a response when the cache policy is asked about it. -/
structure TouchesOnlyMarks (ruleset : Ruleset CacheRule) (method path : String)
    (headers : Headers) : Prop where
  /-- Every other header keeps its values, in order. -/
  others : ∀ name ∉ [HeaderName.cacheable, HeaderName.expires, HeaderName.vary],
    (annotateCache headers ruleset method path).values name = headers.values name
  otherMethod : method ≠ "GET" → method ≠ "HEAD" →
    annotateCache headers ruleset method path = headers
  undecided : (∀ rule ∈ ruleset.rules, ¬rule.covers (Text.asciiUpper method) path) →
    annotateCache headers ruleset method path = headers
  denied : ∀ rule, ruleset.Decides method path rule → rule.disposition = .deny →
    annotateCache headers ruleset method path = headers
  /-- Without a list of headers to vary by, `Vary` is left as it was. -/
  unlisted : ∀ rule, ruleset.Decides method path rule → rule.vary = [] →
    (annotateCache headers ruleset method path).values HeaderName.vary =
      headers.values HeaderName.vary
  /-- Where the deciding rule allows caching, the marks are the only values of their names. -/
  allowed : method = "GET" ∨ method = "HEAD" → ∀ rule, ruleset.Decides method path rule →
    rule.disposition = .allow →
      (annotateCache headers ruleset method path).values HeaderName.cacheable =
          [HeaderValue.ofText "1"] ∧
        (annotateCache headers ruleset method path).values HeaderName.expires =
          [HeaderValue.ofText (toString (if rule.ttl = 0 then 600 else rule.ttl))]
  twice : annotateCache (annotateCache headers ruleset method path) ruleset method path =
    annotateCache headers ruleset method path

theorem touchesOnlyMarks_of_marks (marks : ruleset.Marks method path rule) (headers : Headers) :
    TouchesOnlyMarks ruleset method path headers := by
  have written := fun headers => Ruleset.annotateCache_of_marks marks headers
  have replaced := fun headers => (written headers).trans (markCacheable_eq_replaceAll headers rule)
  rcases Ruleset.marks_iff_decides.mp marks with ⟨asks, decides, allows⟩
  constructor
  case others =>
      intro name elsewhere
      exact values_annotateCache_of_ne headers ruleset method path elsewhere
  case otherMethod =>
      intro notGet notHead
      exact absurd asks (not_or.mpr ⟨notGet, notHead⟩)
  case undecided =>
      intro uncovered
      rcases decides.first with ⟨before, behind, rules, -⟩
      exact absurd decides.covers (uncovered rule (by simp [rules]))
  case denied =>
      intro other also denies
      rw [← decides.unique also, allows] at denies
      cases denies
  case unlisted =>
      intro other also unlisted
      rw [← decides.unique also] at unlisted
      have fields : varyField? rule = none := if_pos (by simp [unlisted])
      rw [replaced, markFields, fields]
      exact Headers.values_replaceAll_of_not_mem vary_notMem
  case allowed =>
      intro _ other also _
      rw [← decides.unique also, written]
      exact ⟨values_cacheable_markCacheable headers rule, values_expires_markCacheable headers rule⟩
  case twice => rw [replaced, replaced, Headers.replaceAll_replaceAll]

theorem touchesOnlyMarks_of_unmarked (unmarked : ∀ rule, ¬ruleset.Marks method path rule)
    (headers : Headers) : TouchesOnlyMarks ruleset method path headers := by
  have unchanged := Ruleset.annotateCache_of_unmarked unmarked
  constructor
  case others =>
      intro name elsewhere
      exact values_annotateCache_of_ne headers ruleset method path elsewhere
  case otherMethod => exact fun _ _ => unchanged headers
  case undecided => exact fun _ => unchanged headers
  case denied => exact fun _ _ _ => unchanged headers
  case unlisted =>
      intro _ _ _
      rw [unchanged]
  case allowed =>
      intro asks rule decides allows
      exact absurd (Ruleset.marks_iff_decides.mpr ⟨asks, decides, allows⟩) (unmarked rule)
  case twice => rw [unchanged]

theorem annotateCache_touchesOnlyMarks (ruleset : Ruleset CacheRule) (method path : String)
    (headers : Headers) : TouchesOnlyMarks ruleset method path headers := by
  by_cases marked : ∃ rule, ruleset.Marks method path rule
  · rcases marked with ⟨rule, marks⟩
    exact touchesOnlyMarks_of_marks marks headers
  · exact touchesOnlyMarks_of_unmarked (not_exists.mp marked) headers

end Gatehouse
