import Gatehouse.Proofs.Gate.Mediation
import Gatehouse.Proofs.Text.Numerals

/-!
# Marks on responses

A mark tells the caches in front of the gate that they may keep a response.  The
cache policy marks a response under the first rule that covers its request, and
what a rule writes takes the place of whatever stood under the same names.

Where no rule marks a response, nothing is written, and nothing is taken away
either: the handler behind the gate may have marked the response itself, and
then its mark goes out.  So the marks that leave the gate are those of the
policy and those of the handler.
-/

namespace Gatehouse

open Http (Headers HeaderValue IsPrintable Request Response)

namespace Http

theorem Headers.contains_iff {headers : Headers} {name : String} :
    headers.contains name ↔ headers.values name ≠ [] := by
  rw [contains, get?_eq_head?, List.isSome_head?]

theorem isPrintable_toString (number : Nat) : IsPrintable (toString number) := by
  intro character characterMem
  have bounds := Text.bounds_of_mem_toString characterMem
  exact .inr ⟨by omega, by omega⟩

end Http

namespace Ruleset

theorem isMarkedMethod_iff {method : String} :
    isMarkedMethod method ↔ method = "GET" ∨ method = "HEAD" := by
  simp [isMarkedMethod]

variable [PatternEngine] {ruleset : Ruleset CacheRule} {method path : String} {rule : CacheRule}

/-- The rule marks responses to a method and a path: it is the first that covers them, and it
allows caching.  Only `GET` and `HEAD` are marked. -/
structure Marks (ruleset : Ruleset CacheRule) (method path : String) (rule : CacheRule) :
    Prop where
  asks : method = "GET" ∨ method = "HEAD"
  first : ∃ before behind, ruleset.rules = before ++ rule :: behind ∧
    ∀ earlier ∈ before, ¬earlier.covers method path
  covers : rule.covers method path
  allows : rule.disposition = .allow

theorem marks_iff :
    ruleset.Marks method path rule ↔
      isMarkedMethod method ∧ ruleset.allowingRule method path = some rule := by
  have capital : method = "GET" ∨ method = "HEAD" → Text.asciiUpper method = method := by
    rintro (rfl | rfl) <;> decide
  rw [isMarkedMethod_iff, allowingRule, Option.filter_eq_some_iff, decidingRule,
    List.find?_eq_some_iff_append, decide_eq_true_iff]
  simp only [Bool.not_eq_true', ← Bool.not_eq_true]
  constructor
  · rintro ⟨marked, ⟨before, behind, rules, first⟩, covers, allows⟩
    rw [capital marked]
    exact ⟨marked, ⟨covers, before, behind, rules, first⟩, allows⟩
  · rintro ⟨marked, ⟨covers, before, behind, rules, first⟩, allows⟩
    rw [capital marked] at covers first
    exact ⟨marked, ⟨before, behind, rules, first⟩, covers, allows⟩

theorem annotateCache_of_marks (marks : ruleset.Marks method path rule) (headers : Headers) :
    annotateCache headers ruleset method path = markCacheable headers rule := by
  rcases marks_iff.mp marks with ⟨marked, allowing⟩
  rw [annotateCache, if_pos marked, allowing]

theorem annotateCache_of_unmarked (unmarked : ∀ rule, ¬ruleset.Marks method path rule)
    (headers : Headers) : annotateCache headers ruleset method path = headers := by
  unfold annotateCache
  split
  case isTrue marked =>
    cases allowing : ruleset.allowingRule method path with
    | none => rfl
    | some rule => exact absurd (marks_iff.mpr ⟨marked, allowing⟩) (unmarked rule)
  case isFalse => rfl

end Ruleset

theorem values_cacheable_markCacheable [PatternEngine] (headers : Headers) (rule : CacheRule) :
    (markCacheable headers rule).values HeaderName.cacheable = [HeaderValue.ofText "1"] := by
  have printable : IsPrintable "1" := Http.printable_of_all (by decide)
  unfold markCacheable
  dsimp only
  split
  · rw [Headers.values_set_of_ne _ _ (by decide), Headers.values_set_self _ _ printable]
  · rw [Headers.values_set_of_ne _ _ (by decide), Headers.values_set_of_ne _ _ (by decide),
      Headers.values_set_self _ _ printable]

theorem values_expires_markCacheable [PatternEngine] (headers : Headers) (rule : CacheRule) :
    (markCacheable headers rule).values HeaderName.expires =
      [HeaderValue.ofText (toString (markedTtl rule))] := by
  have printable := Http.isPrintable_toString (markedTtl rule)
  unfold markCacheable
  dsimp only
  split
  · rw [Headers.values_set_self _ _ printable]
  · rw [Headers.values_set_of_ne _ _ (by decide), Headers.values_set_self _ _ printable]

namespace Gate

theorem elsewhere_of_mem_marks :
    ∀ name ∈ [HeaderName.cacheable, HeaderName.expires, HeaderName.vary],
      name ∉ [HeaderName.requestId, HeaderName.hit, HeaderName.ruleIds] := by
  decide

section

variable [PatternEngine] {gate : Gate} {fresh id : String} {request : Request} {response : Response}
  {verdict : Option Verdict} {rule : CacheRule} {name : String}

/-- The policy in force marks the response to a request under a rule.  A failure of the server is
not marked. -/
structure Marks (gate : Gate) (request : Request) (response : Response) (rule : CacheRule) :
    Prop where
  sound : ¬(500 ≤ response.status ∧ response.status < 600)
  policy : ∃ ruleset, gate.cache = some ruleset ∧
    ruleset.Marks request.method (cachePath request) rule

/-- Before the cache policy is asked, the gate has set none but three headers. -/
theorem exists_told (gate : Gate) (id : String) (request : Request) (verdict : Option Verdict)
    (response : Response) :
    ∃ told : Headers,
      (∀ name ∉ [HeaderName.requestId, HeaderName.hit, HeaderName.ruleIds],
        told.values name = response.headers.values name) ∧
      (gate.annotated id request verdict response).headers =
        if response.isServerError then told
        else
          match gate.cache with
          | some ruleset => annotateCache told ruleset request.method (cachePath request)
          | none => told := by
  refine ⟨_, ?_, rfl⟩
  intro name elsewhere
  simp only [List.mem_cons, List.not_mem_nil, or_false, not_or] at elsewhere
  rcases elsewhere with ⟨notId, notHit, notRuleIds⟩
  cases verdict with
  | none => exact Headers.values_set_of_ne _ _ notId
  | some verdict =>
      rw [values_annotateVerdict_of_ne _ _ notHit notRuleIds, Headers.values_set_of_ne _ _ notId]

/-- What the policy writes takes the place of what the handler wrote. -/
theorem values_annotated_of_marks (marks : gate.Marks request response rule) :
    (gate.annotated id request verdict response).headers.values HeaderName.cacheable =
        [HeaderValue.ofText "1"] ∧
      (gate.annotated id request verdict response).headers.values HeaderName.expires =
        [HeaderValue.ofText (toString (markedTtl rule))] := by
  rcases marks.policy with ⟨ruleset, inForce, marked⟩
  have sound : ¬response.isServerError := by
    simpa only [Response.isServerError, Bool.and_eq_true, decide_eq_true_eq] using marks.sound
  rcases gate.exists_told id request verdict response with ⟨told, -, written⟩
  rw [written, if_neg sound, inForce]
  dsimp only
  rw [Ruleset.annotateCache_of_marks marked]
  exact ⟨values_cacheable_markCacheable told rule, values_expires_markCacheable told rule⟩

/-- Where the policy does not mark a response, what the handler wrote goes out. -/
theorem values_annotated_of_unmarked (unmarked : ∀ rule, ¬gate.Marks request response rule)
    (elsewhere : name ∉ [HeaderName.requestId, HeaderName.hit, HeaderName.ruleIds]) :
    (gate.annotated id request verdict response).headers.values name =
      response.headers.values name := by
  rcases gate.exists_told id request verdict response with ⟨told, kept, written⟩
  rw [written, ← kept name elsewhere]
  split
  case isTrue => rfl
  case isFalse sound =>
    cases inForce : gate.cache with
    | none => rfl
    | some ruleset =>
        dsimp only
        rw [Ruleset.annotateCache_of_unmarked]
        intro rule marks
        refine unmarked rule ⟨?_, ruleset, inForce, marks⟩
        simpa only [Response.isServerError, Bool.and_eq_true, decide_eq_true_eq] using sound

theorem contains_annotated_iff :
    (gate.annotated id request verdict response).headers.contains HeaderName.cacheable ↔
      (∃ rule, gate.Marks request response rule) ∨
        response.headers.contains HeaderName.cacheable := by
  simp only [Headers.contains_iff]
  by_cases marked : ∃ rule, gate.Marks request response rule
  · rcases marked with ⟨rule, marks⟩
    rw [(values_annotated_of_marks marks).1]
    exact ⟨fun _ => .inl ⟨rule, marks⟩, fun _ => nofun⟩
  · rw [values_annotated_of_unmarked (not_exists.mp marked) (by decide)]
    exact ⟨.inr, fun either => either.resolve_left marked⟩

/-- What can be relied on about the mark of every response that leaves the gate. -/
structure MarksResponses (gate : Gate) (behind : Request → Response) (request : Request)
    (passage : Passage) : Prop where
  /-- A response is marked exactly if no inspection has blocked its request and the policy marks
  it or the handler has marked it. -/
  marked : passage.response.headers.contains HeaderName.cacheable ↔
    (∀ inspection ∈ passage.inspections, ¬(gate.inspector inspection).blocked) ∧
      ∃ passed ∈ passage.passedOn, (∃ rule, gate.Marks request (behind passed) rule) ∨
        (behind passed).headers.contains HeaderName.cacheable
  /-- What the policy marks carries the time to live of the rule, with zero written as 600. -/
  byPolicy : ∀ passed ∈ passage.passedOn, ∀ rule, gate.Marks request (behind passed) rule →
    passage.response.headers.values HeaderName.cacheable = [HeaderValue.ofText "1"] ∧
      passage.response.headers.values HeaderName.expires =
        [HeaderValue.ofText (toString (if rule.ttl = 0 then 600 else rule.ttl))]
  /-- What the policy does not mark carries what the handler has written. -/
  byHandler : ∀ passed ∈ passage.passedOn, (∀ rule, ¬gate.Marks request (behind passed) rule) →
    ∀ name ∈ [HeaderName.cacheable, HeaderName.expires, HeaderName.vary],
      passage.response.headers.values name = (behind passed).headers.values name

theorem marksResponses_annotated {behind : Request → Response} {passed : Request}
    {inspections : List Inspection}
    (allowed : ∀ inspection ∈ inspections, ¬(gate.inspector inspection).blocked) :
    gate.MarksResponses behind request
      ⟨gate.annotated id request verdict (behind passed), inspections, [passed]⟩ := by
  constructor
  case marked =>
      simp only [contains_annotated_iff, List.mem_singleton, exists_eq_left]
      exact (and_iff_right allowed).symm
  case byPolicy =>
      intro passed passedMem rule marks
      rw [List.mem_singleton.mp passedMem] at marks
      exact values_annotated_of_marks marks
  case byHandler =>
      intro passed passedMem unmarked name nameMem
      rw [List.mem_singleton.mp passedMem] at unmarked ⊢
      exact values_annotated_of_unmarked unmarked (elsewhere_of_mem_marks name nameMem)

theorem pass_marksResponses (gate : Gate) (fresh : String) (behind : Request → Response)
    (request : Request) :
    gate.MarksResponses behind request (gate.pass fresh behind request) := by
  have passes := gate.passes_pass fresh behind request
  generalize gate.pass fresh behind request = passage at passes
  cases passes with
  | @blocked inspection asked blocks =>
      have unmarked := values_refusal_eq_nil (requestId fresh request) (gate.inspector inspection)
        HeaderName.cacheable (by decide)
      constructor
      case marked => simp [Headers.contains_iff, unmarked]
      case byPolicy => simp
      case byHandler => simp
  | inspected asked allows => exact marksResponses_annotated (by simpa using allows)
  | bypassed spared => exact marksResponses_annotated (by simp)

end

/-- The mark of a handler goes out on a failure of the server, under a policy that denies
caching. -/
theorem marked_by_handler :
    (pass ⟨none, some ⟨[⟨.deny, some (.beginning "/"), .empty, 600, []⟩]⟩, .passThrough⟩ "a"
        (fun _ => ⟨500, ⟨[(HeaderName.cacheable, HeaderValue.ofText "1")]⟩, .empty⟩)
        ⟨"GET", ⟨"", "/", none⟩, .empty, .empty⟩).response.headers.contains
          HeaderName.cacheable ∧
      ∀ rule, ¬Marks
        ⟨none, some ⟨[⟨.deny, some (.beginning "/"), .empty, 600, []⟩]⟩, .passThrough⟩
        ⟨"GET", ⟨"", "/", none⟩, .empty, .empty⟩
        ⟨500, ⟨[(HeaderName.cacheable, HeaderValue.ofText "1")]⟩, .empty⟩ rule := by
  refine ⟨by decide, fun rule marks => ?_⟩
  exact marks.sound ⟨by decide, by decide⟩

end Gate

end Gatehouse
