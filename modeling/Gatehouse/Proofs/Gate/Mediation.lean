import Gatehouse.Gate.Passage
import Gatehouse.Pattern.Engine
import Gatehouse.Proofs.Http.HeaderText

/-!
# Complete mediation

No request gets behind the gate uninspected unless the bypass policy says so,
and none gets there at all if its inspection blocks it.  The policy says so by
the first entry that covers the path, which is spelled out here on the list of
entries and proved to be what the gate acts on.

The same name goes to the inspection, to the request that is passed on and to
the response.  A given name is one that could be read from a header, so it can
be set again; a new one is assumed to be of the form in which the gate makes
them.
-/

namespace Gatehouse

open Http (Headers HeaderValue IsPrintable Request Response)

/-- A new name is 32 small hexadecimal digits. -/
structure IsMinted (fresh : String) : Prop where
  length : fresh.length = 32
  digits : fresh.toList.all fun character => "0123456789abcdef".toList.contains character

theorem IsMinted.printable {fresh : String} (minted : IsMinted fresh) : IsPrintable fresh := by
  have printable : IsPrintable "0123456789abcdef" := Http.printable_of_all (by decide)
  intro character characterMem
  have digit := List.all_eq_true.mp minted.digits character characterMem
  exact printable character (by simpa using digit)

theorem IsMinted.ne_empty {fresh : String} (minted : IsMinted fresh) : fresh ≠ "" := by
  rintro rfl
  exact absurd minted.length (by decide)

theorem values_annotateVerdict_of_ne {name : String} (headers : Headers) (verdict : Verdict)
    (notHit : name ≠ HeaderName.hit) (notRuleIds : name ≠ HeaderName.ruleIds) :
    (annotateVerdict headers verdict).values name = headers.values name := by
  unfold annotateVerdict
  split
  · rw [Headers.values_set_of_ne _ _ notRuleIds, Headers.values_set_of_ne _ _ notHit]
  · rfl

theorem values_hit_annotateVerdict {verdict : Verdict} (headers : Headers)
    (hit : verdict.ruleIds ≠ []) :
    (annotateVerdict headers verdict).values HeaderName.hit = [HeaderValue.ofText "1"] := by
  have isHit : verdict.isHit := by simpa [Verdict.isHit] using hit
  have printable : IsPrintable "1" := Http.printable_of_all (by decide)
  rw [annotateVerdict, if_pos isHit, Headers.values_set_of_ne _ _ (by decide),
    Headers.values_set_self _ _ printable]

theorem values_annotateCache_of_ne [PatternEngine] {name : String} (headers : Headers)
    (ruleset : Ruleset CacheRule) (method path : String)
    (elsewhere : name ∉ [HeaderName.cacheable, HeaderName.expires, HeaderName.vary]) :
    (annotateCache headers ruleset method path).values name = headers.values name := by
  simp only [List.mem_cons, List.not_mem_nil, or_false, not_or] at elsewhere
  rcases elsewhere with ⟨notCacheable, notExpires, notVary⟩
  unfold annotateCache
  split
  · split
    · unfold markCacheable
      dsimp only
      split
      · rw [Headers.values_set_of_ne _ _ notExpires, Headers.values_set_of_ne _ _ notCacheable]
      · rw [Headers.values_set_of_ne _ _ notVary, Headers.values_set_of_ne _ _ notExpires,
          Headers.values_set_of_ne _ _ notCacheable]
    · rfl
  · rfl

namespace Gate

variable {fresh : String} {request : Request}

/-- A request keeps a name that can be read, or gets the new one. -/
theorem requestId_cases (fresh : String) (request : Request) :
    (requestId fresh request ≠ "" ∧ named fresh request = request ∧
        request.headers.text? HeaderName.requestId = some (requestId fresh request)) ∨
      requestId fresh request = fresh ∧
        (named fresh request).headers = request.headers.set HeaderName.requestId fresh := by
  unfold requestId named
  cases given : givenId? request.headers with
  | some id =>
      rw [givenId?, Option.filter_eq_some_iff] at given
      exact .inl ⟨by simpa using given.2, rfl, given.1⟩
  | none => exact .inr ⟨rfl, rfl⟩

theorem requestId_ne_empty (minted : IsMinted fresh) (request : Request) :
    requestId fresh request ≠ "" := by
  rcases requestId_cases fresh request with ⟨named, -, -⟩ | ⟨new, -⟩
  · exact named
  · rw [new]
    exact minted.ne_empty

theorem printable_requestId (minted : IsMinted fresh) (request : Request) :
    IsPrintable (requestId fresh request) := by
  rcases requestId_cases fresh request with ⟨-, -, read⟩ | ⟨new, -⟩
  · rw [Headers.text?, Option.bind_eq_some_iff] at read
    rcases read with ⟨value, -, read⟩
    exact HeaderValue.printable_of_text? read
  · rw [new]
    exact minted.printable

theorem text?_named (minted : IsMinted fresh) (request : Request) :
    (named fresh request).headers.text? HeaderName.requestId =
      some (requestId fresh request) := by
  rcases requestId_cases fresh request with ⟨-, same, read⟩ | ⟨new, set⟩
  · rw [same, read]
  · rw [set, new]
    exact Headers.text?_of_values minted.printable (Headers.values_set_self _ _ minted.printable)

theorem values_requestId_refusal {id : String} (printable : IsPrintable id) (verdict : Verdict) :
    (refusal id verdict).headers.values HeaderName.requestId = [HeaderValue.ofText id] :=
  Headers.values_set_self _ _ printable

theorem values_hit_refusal {verdict : Verdict} (id : String) (hit : verdict.ruleIds ≠ []) :
    (refusal id verdict).headers.values HeaderName.hit = [HeaderValue.ofText "1"] := by
  rw [refusal, Headers.values_set_of_ne _ _ (by decide), values_hit_annotateVerdict _ hit]

theorem values_refusal_eq_nil (id : String) (verdict : Verdict) :
    ∀ name ∈ [HeaderName.cacheable, HeaderName.expires, HeaderName.vary],
      (refusal id verdict).headers.values name = [] := by
  have distinct : ∀ name ∈ [HeaderName.cacheable, HeaderName.expires, HeaderName.vary],
      name ≠ HeaderName.requestId ∧ name ≠ HeaderName.hit ∧ name ≠ HeaderName.ruleIds ∧
        name ≠ "content-type" := by decide
  intro name nameMem
  rcases distinct name nameMem with ⟨notId, notHit, notRuleIds, notType⟩
  rw [refusal, Headers.values_set_of_ne _ _ notId,
    values_annotateVerdict_of_ne _ _ notHit notRuleIds, Response.text,
    Headers.values_set_of_ne _ _ notType]
  rfl

section

variable [PatternEngine] {gate : Gate} {entry : BypassEntry}

/-- The entry is the first of the policy in force that covers the path of the request. -/
def Decides (gate : Gate) (request : Request) (entry : BypassEntry) : Prop :=
  ∃ ruleset before behind, gate.bypass = some ruleset ∧
    ruleset.rules = before ++ entry :: behind ∧
    entry.covers (RequestPath.normalize request.target.path) ∧
    ∀ earlier ∈ before, ¬earlier.covers (RequestPath.normalize request.target.path)

theorem action_of_decides (decides : gate.Decides request entry) :
    gate.action request = entry.action := by
  rcases decides with ⟨ruleset, before, behind, inForce, rules, covers, first⟩
  simp only [action, inForce]
  exact Ruleset.bypassAction_of_first rules covers first

theorem action_of_undecided (undecided : ∀ entry, ¬gate.Decides request entry) :
    gate.action request = .none := by
  unfold action
  cases inForce : gate.bypass with
  | none => rfl
  | some ruleset =>
      rcases ruleset.bypassAction_cases request.target.path with
        ⟨-, nothing⟩ | ⟨before, entry, behind, rules, covers, first, -⟩
      · exact nothing
      · exact absurd ⟨ruleset, before, behind, inForce, rules, covers, first⟩ (undecided entry)

theorem inspection?_of_decides (decides : gate.Decides request entry) :
    gate.inspection? fresh request = entry.ruleFile.map fun file =>
      inspectionOf (requestId fresh request) (named fresh request) (some file) := by
  rw [inspection?, action_of_decides decides, BypassEntry.action]
  cases entry.ruleFile <;> rfl

theorem inspection?_of_undecided (undecided : ∀ entry, ¬gate.Decides request entry) :
    gate.inspection? fresh request =
      some (inspectionOf (requestId fresh request) (named fresh request) none) := by
  rw [inspection?, action_of_undecided undecided]

theorem requestId_of_inspection? {inspection : Inspection}
    (asked : gate.inspection? fresh request = some inspection) :
    inspection.requestId = requestId fresh request := by
  unfold inspection? at asked
  split at asked <;> cases asked <;> rfl

/-- What a passage can come to: the request is turned away, or it is passed on. -/
inductive Passes (gate : Gate) (fresh : String) (behind : Request → Response)
    (request : Request) : Passage → Prop
  | blocked {inspection : Inspection} (asked : gate.inspection? fresh request = some inspection)
      (blocks : (gate.inspector inspection).blocked) :
      Passes gate fresh behind request
        ⟨refusal (requestId fresh request) (gate.inspector inspection), [inspection], []⟩
  | inspected {inspection : Inspection}
      (asked : gate.inspection? fresh request = some inspection)
      (allows : ¬(gate.inspector inspection).blocked) :
      Passes gate fresh behind request
        ⟨gate.annotated (requestId fresh request) request (some (gate.inspector inspection))
          (behind (named fresh request)), [inspection], [named fresh request]⟩
  | bypassed (spared : gate.inspection? fresh request = none) :
      Passes gate fresh behind request
        ⟨gate.annotated (requestId fresh request) request none (behind (named fresh request)),
          [], [named fresh request]⟩

theorem passes_pass (gate : Gate) (fresh : String) (behind : Request → Response)
    (request : Request) :
    gate.Passes fresh behind request (gate.pass fresh behind request) := by
  unfold pass
  cases asked : gate.inspection? fresh request with
  | none => exact .bypassed asked
  | some inspection =>
      by_cases blocks : (gate.inspector inspection).blocked
      · simp only [Option.map_some, Option.filter_some, blocks, if_true]
        exact .blocked asked blocks
      · simp only [Option.map_some, Option.filter_some, blocks]
        exact .inspected asked blocks

/-- The cache policy changes only its own headers. -/
theorem values_annotated {name id : String} {verdict : Option Verdict} {response : Response}
    (elsewhere : name ∉ [HeaderName.cacheable, HeaderName.expires, HeaderName.vary]) :
    (gate.annotated id request verdict response).headers.values name =
      (match verdict with
        | some verdict =>
            annotateVerdict (response.headers.set HeaderName.requestId id) verdict
        | none => response.headers.set HeaderName.requestId id).values name := by
  simp only [annotated]
  split
  · rfl
  · cases gate.cache with
    | none => rfl
    | some ruleset => exact values_annotateCache_of_ne _ _ _ _ elsewhere

theorem values_requestId_annotated {id : String} (gate : Gate) (request : Request)
    (printable : IsPrintable id) (verdict : Option Verdict) (response : Response) :
    (gate.annotated id request verdict response).headers.values HeaderName.requestId =
      [HeaderValue.ofText id] := by
  rw [values_annotated (by decide)]
  cases verdict with
  | none => exact Headers.values_set_self _ _ printable
  | some verdict =>
      simp only
      rw [values_annotateVerdict_of_ne _ _ (by decide) (by decide)]
      exact Headers.values_set_self _ _ printable

theorem values_hit_annotated {verdict : Verdict} (id : String) (response : Response)
    (hit : verdict.ruleIds ≠ []) :
    (gate.annotated id request (some verdict) response).headers.values HeaderName.hit =
      [HeaderValue.ofText "1"] := by
  rw [values_annotated (by decide)]
  exact values_hit_annotateVerdict _ hit

/-- What can be relied on about every request that the gate takes. -/
structure Mediates (gate : Gate) (behind : Request → Response) (request : Request)
    (passage : Passage) : Prop where
  /-- No inspection is asked for exactly if the entry that decides names no rule file. -/
  spared : passage.inspections = [] ↔
    ∃ entry, gate.Decides request entry ∧ entry.ruleFile = none
  /-- Otherwise one is asked for, by the rule file of that entry if there is one. -/
  inspected : passage.inspections ≠ [] → ∃ inspection, passage.inspections = [inspection] ∧
    ((∃ entry, gate.Decides request entry ∧ inspection.ruleFile = entry.ruleFile) ∨
      (∀ entry, ¬gate.Decides request entry) ∧ inspection.ruleFile = none)
  /-- A request whose inspection blocks it is passed on to nobody, and the response is not
  marked as cacheable. -/
  blocked : ∀ inspection ∈ passage.inspections, (gate.inspector inspection).blocked →
    passage.passedOn = [] ∧ passage.response.status = 403 ∧
      ∀ name ∈ [HeaderName.cacheable, HeaderName.expires, HeaderName.vary],
        passage.response.headers.values name = []
  /-- Any other request is passed on once, and answered with what comes back. -/
  passedOn : (∀ inspection ∈ passage.inspections, ¬(gate.inspector inspection).blocked) →
    ∃ passed, passage.passedOn = [passed] ∧
      passage.response.status = (behind passed).status ∧
      passage.response.body = (behind passed).body
  /-- The response tells whether some rule matched. -/
  hit : ∀ inspection ∈ passage.inspections, (gate.inspector inspection).ruleIds ≠ [] →
    passage.response.headers.values HeaderName.hit = [HeaderValue.ofText "1"]
  /-- The inspection, the request that is passed on and the response carry the same name. -/
  named : ∃ id, id ≠ "" ∧ (∀ inspection ∈ passage.inspections, inspection.requestId = id) ∧
    (∀ passed ∈ passage.passedOn, passed.headers.text? HeaderName.requestId = some id) ∧
    passage.response.headers.values HeaderName.requestId = [HeaderValue.ofText id] ∧
    passage.response.headers.text? HeaderName.requestId = some id

theorem inspection?_eq_none_iff :
    gate.inspection? fresh request = none ↔
      ∃ entry, gate.Decides request entry ∧ entry.ruleFile = none := by
  constructor
  · intro spared
    by_cases decided : ∃ entry, gate.Decides request entry
    · rcases decided with ⟨entry, decides⟩
      rw [inspection?_of_decides decides, Option.map_eq_none_iff] at spared
      exact ⟨entry, decides, spared⟩
    · rw [inspection?_of_undecided (not_exists.mp decided)] at spared
      cases spared
  · rintro ⟨entry, decides, plain⟩
    rw [inspection?_of_decides decides, plain]
    rfl

theorem ruleFile_of_inspection? {inspection : Inspection}
    (asked : gate.inspection? fresh request = some inspection) :
    (∃ entry, gate.Decides request entry ∧ inspection.ruleFile = entry.ruleFile) ∨
      (∀ entry, ¬gate.Decides request entry) ∧ inspection.ruleFile = none := by
  by_cases decided : ∃ entry, gate.Decides request entry
  · rcases decided with ⟨entry, decides⟩
    rw [inspection?_of_decides decides, Option.map_eq_some_iff] at asked
    rcases asked with ⟨file, names, rfl⟩
    exact .inl ⟨entry, decides, names.symm⟩
  · rw [inspection?_of_undecided (not_exists.mp decided)] at asked
    cases asked
    exact .inr ⟨not_exists.mp decided, rfl⟩

/-- Every request is mediated, whatever the policies, the engine and the handler are. -/
theorem pass_mediates (minted : IsMinted fresh) (gate : Gate) (behind : Request → Response)
    (request : Request) : gate.Mediates behind request (gate.pass fresh behind request) := by
  have named := requestId_ne_empty minted request
  have printable := printable_requestId minted request
  have kept := text?_named minted request
  have sparedIff : gate.inspection? fresh request = none ↔
      ∃ entry, gate.Decides request entry ∧ entry.ruleFile = none := inspection?_eq_none_iff
  -- A passage is one of three: stopped by the engine, let go by it, or passed by.
  have passes := gate.passes_pass fresh behind request
  generalize gate.pass fresh behind request = passage at passes
  cases passes with
  | @blocked inspection asked blocks =>
      have sameId := requestId_of_inspection? asked
      have carried := values_requestId_refusal printable (gate.inspector inspection)
      constructor
      case spared => simp [← sparedIff, asked]
      case inspected => exact fun _ => ⟨inspection, rfl, ruleFile_of_inspection? asked⟩
      case blocked => exact fun _ _ _ => ⟨rfl, rfl, values_refusal_eq_nil _ _⟩
      case passedOn => exact fun allows => absurd blocks (allows inspection (by simp))
      case hit => simpa using values_hit_refusal _
      case named =>
          exact ⟨_, named, by simpa using sameId, by simp, carried,
            Headers.text?_of_values printable carried⟩
  | @inspected inspection asked allows =>
      have sameId := requestId_of_inspection? asked
      have carried := values_requestId_annotated gate request printable
        (some (gate.inspector inspection)) (behind (Gate.named fresh request))
      constructor
      case spared => simp [← sparedIff, asked]
      case inspected => exact fun _ => ⟨inspection, rfl, ruleFile_of_inspection? asked⟩
      case blocked => simp [allows]
      case passedOn => exact fun _ => ⟨_, rfl, rfl, rfl⟩
      case hit => simpa using values_hit_annotated _ _
      case named =>
          exact ⟨_, named, by simpa using sameId, by simpa using kept, carried,
            Headers.text?_of_values printable carried⟩
  | bypassed spared =>
      have carried := values_requestId_annotated gate request printable none
        (behind (Gate.named fresh request))
      constructor
      case spared => simp [← sparedIff, spared]
      case inspected => simp
      case blocked => simp
      case passedOn => exact fun _ => ⟨_, rfl, rfl, rfl⟩
      case hit => simp
      case named =>
          exact ⟨_, named, by simp, by simpa using kept, carried,
            Headers.text?_of_values printable carried⟩

end

/-- A request with an unreadable name is inspected by an engine that blocks everything. -/
theorem pass_mediates_unreadable_name :
    IsMinted "0123456789abcdef0123456789abcdef" ∧
      Mediates ⟨some ⟨[⟨"/health", none⟩]⟩, none, fun _ => ⟨true, ["rule-1"]⟩⟩
        (fun _ => .bare 200)
        ⟨"GET", ⟨"", "/", none⟩, ⟨[(HeaderName.requestId, [0xFF])]⟩, .empty⟩
        (pass ⟨some ⟨[⟨"/health", none⟩]⟩, none, fun _ => ⟨true, ["rule-1"]⟩⟩
          "0123456789abcdef0123456789abcdef" (fun _ => .bare 200)
          ⟨"GET", ⟨"", "/", none⟩, ⟨[(HeaderName.requestId, [0xFF])]⟩, .empty⟩) := by
  have minted : IsMinted "0123456789abcdef0123456789abcdef" := ⟨by decide, by decide⟩
  exact ⟨minted, pass_mediates minted _ _ _⟩

end Gate

end Gatehouse
