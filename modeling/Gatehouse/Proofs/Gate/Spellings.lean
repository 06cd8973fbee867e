import Gatehouse.Gate.Passage
import Gatehouse.Pattern.Engine
import Gatehouse.Proofs.Path.Segments

/-!
# Spellings of a path

A path may be spelled with escapes.  What it means is its decoded bytes, and two
spellings with the same bytes should be judged alike.  They are, as long as the
bytes are a text.  A path whose decoded bytes are no text is judged as it is
written, so its spelling matters: an escape can take it past a rule that denies
caching, and escaped dots can take it into a directory that it does not lie in.
-/

namespace Gatehouse

open Http (Request Response)
open RequestPath

namespace RequestPath

variable {written kept : List (List Char)}

theorem Resolves.bytes (resolves : Resolves '.' written kept) :
    Resolves (0x2E : UInt8) (written.map Text.bytesOfChars) (kept.map Text.bytesOfChars) := by
  have empty : Text.bytesOfChars [] = [] := rfl
  have here : Text.bytesOfChars ['.'] = [0x2E] := by decide
  have above : Text.bytesOfChars ['.', '.'] = [0x2E, 0x2E] := by decide
  induction resolves with
  | nothing => exact .nothing
  | @stay written kept segment soFar isHere ih =>
      rw [List.map_append]
      apply Resolves.stay ih
      rcases isHere with rfl | rfl
      · exact .inl empty
      · exact .inr here
  | climb soFar ih =>
      rw [List.map_append, List.map_dropLast, List.map_singleton, above]
      exact .climb ih
  | descend soFar notEmpty notHere notAbove ih =>
      rw [List.map_append, List.map_append]
      apply Resolves.descend ih
      · rw [← empty]
        exact fun same => notEmpty (Text.bytesOfChars_injective same)
      · rw [← here]
        exact fun same => notHere (Text.bytesOfChars_injective same)
      · rw [← above]
        exact fun same => notAbove (Text.bytesOfChars_injective same)

/-- A path that stands for a text has the segments of the text, in bytes. -/
theorem resolves_bytes {path : String} (readable : (Percent.decode? path).isSome) :
    Resolves (0x2E : UInt8) ((Percent.bytes path).splitOn 0x2F)
      ((segments path).map Text.bytesOfChars) := by
  have ascii : ('/' : Char).toNat < 128 := by decide
  rcases Option.isSome_iff_exists.mp readable with ⟨content, read⟩
  have stands := Percent.decode?_eq_some_iff.mp read
  have cut : (Percent.bytes path).splitOn 0x2F =
      (content.toList.splitOn '/').map Text.bytesOfChars := by
    rw [Percent.bytes_eq, stands]
    exact Text.splitOn_bytesOfChars ascii _
  rw [cut, segments, decoded_of_standsFor stands]
  exact (resolves_resolve _).bytes

end RequestPath

namespace BypassEntry

variable {entry : BypassEntry} {path : String}

/-- The path lies in the entry: it leads to the entry's own segments or, for a
directory, below them.  Where a path leads is told by its decoded bytes or, if
they are no text, by what is written. -/
structure Contains (entry : BypassEntry) (path : String) : Prop where
  byBytes : (Percent.decode? path).isSome → ∃ own reached, HasSegments entry.path own ∧
    Resolves (0x2E : UInt8) ((Percent.bytes path).splitOn 0x2F) reached ∧
      entry.Admits (own.map Text.bytesOfChars) reached
  asWritten : Percent.decode? path = none → ∃ own reached, HasSegments entry.path own ∧
    Resolves '.' (path.toList.splitOn '/') reached ∧ entry.Admits own reached

theorem Admits.bytes {own requested : List (List Char)} (admits : entry.Admits own requested) :
    entry.Admits (own.map Text.bytesOfChars) (requested.map Text.bytesOfChars) := by
  rcases admits with rfl | ⟨slash, below⟩
  · exact .inl rfl
  · exact .inr ⟨slash, below.map _⟩

theorem contains_of_spans (spans : entry.Spans path) : entry.Contains path := by
  rcases spans with ⟨own, requested, ownSegments, requestedSegments, admits⟩
  constructor
  case byBytes =>
    intro readable
    refine ⟨own, _, ownSegments, resolves_bytes readable, ?_⟩
    rw [← hasSegments_iff.mp requestedSegments]
    exact admits.bytes
  case asWritten =>
    intro unreadable
    rw [HasSegments, decoded_of_decode?_eq_none unreadable] at requestedSegments
    exact ⟨own, requested, ownSegments, requestedSegments, admits⟩

end BypassEntry

namespace Ruleset

/-- A path for which a ruleset asks for something lies in the entry that decides. -/
theorem bypassAction_contains {ruleset : Ruleset BypassEntry} {path : String}
    (asked : ruleset.bypassAction path ≠ .none) :
    ∃ before entry behind, ruleset.rules = before ++ entry :: behind ∧
      (∀ earlier ∈ before, ¬earlier.Spans path) ∧
      ruleset.bypassAction path = entry.action ∧ entry.Contains path := by
  rcases ruleset.bypassAction_cases path with
    ⟨-, nothing⟩ | ⟨before, entry, behind, rules, covers, first, action⟩
  · exact absurd nothing asked
  · refine ⟨before, entry, behind, rules, ?_, action, ?_⟩
    · intro earlier earlierMem spans
      exact first earlier earlierMem (BypassEntry.covers_normalize_iff.mpr spans)
    · exact BypassEntry.contains_of_spans (BypassEntry.covers_normalize_iff.mp covers)

/-- A path that leaves a directory by escaped dots and comes back lies in it. -/
theorem bypassAction_contains_encoded_dots :
    Ruleset.bypassAction ⟨[⟨"/static/", none⟩]⟩ "/static/%2e%2e/static/app.js" ≠ .none ∧
      ∃ before entry behind,
        [(⟨"/static/", none⟩ : BypassEntry)] = before ++ entry :: behind ∧
        (∀ earlier ∈ before, ¬earlier.Spans "/static/%2e%2e/static/app.js") ∧
        Ruleset.bypassAction ⟨[⟨"/static/", none⟩]⟩ "/static/%2e%2e/static/app.js" =
          entry.action ∧
        entry.Contains "/static/%2e%2e/static/app.js" := by
  have asked :
      Ruleset.bypassAction ⟨[⟨"/static/", none⟩]⟩ "/static/%2e%2e/static/app.js" ≠ .none := by
    decide
  exact ⟨asked, bypassAction_contains asked⟩

/-- Bytes that are no text keep escaped dots from being resolved: the path leads
to a place outside the directory and is taken to lie inside. -/
theorem bypassed_outside_directory :
    Ruleset.bypassAction ⟨[⟨"/static/", none⟩]⟩ "/static/%2e%2e/admin/%FF" = .bypass ∧
      HasSegments "/static/" ["static".toList] ∧
      Resolves (0x2E : UInt8) ((Percent.bytes "/static/%2e%2e/admin/%FF").splitOn 0x2F)
        [Text.bytesOfChars "admin".toList, [0xFF]] ∧
      ¬BypassEntry.Admits ⟨"/static/", none⟩ (["static".toList].map Text.bytesOfChars)
        [Text.bytesOfChars "admin".toList, [0xFF]] := by
  refine ⟨by decide, ?_, by decide, by decide⟩
  rw [hasSegments_iff]
  decide

end Ruleset

namespace Gate

/-- What can be relied on about two requests whose paths have the same decoded bytes. -/
structure DecidesAlike [PatternEngine] (request other : Request) : Prop where
  /-- If the bytes are a text, every cache policy decides about both by the same rule. -/
  decided : (Percent.decode? request.target.path).isSome →
    ∀ (ruleset : Ruleset CacheRule) (method : String),
      ruleset.decidingPosition method (cachePath request) =
          ruleset.decidingPosition method (cachePath other) ∧
        ruleset.isCacheable method (cachePath request) =
          ruleset.isCacheable method (cachePath other)
  /-- Every gate then tells the same about their responses. -/
  annotated : (Percent.decode? request.target.path).isSome → request.method = other.method →
    ∀ (gate : Gate) id verdict response,
      gate.annotated id request verdict response = gate.annotated id other verdict response
  /-- If the bytes are no text, each is decided about as it is written. -/
  asWritten : Percent.decode? request.target.path = none →
    cachePath request = request.target.path ∧ cachePath other = other.target.path

variable {request other : Request}

theorem decode?_congr {path spelling : String}
    (same : Percent.bytes path = Percent.bytes spelling) :
    Percent.decode? path = Percent.decode? spelling := by
  rw [Percent.decode?, Percent.decode?, same]

theorem cachePath_congr
    (same : Percent.bytes request.target.path = Percent.bytes other.target.path)
    (readable : (Percent.decode? request.target.path).isSome) :
    cachePath request = cachePath other := by
  rcases Option.isSome_iff_exists.mp readable with ⟨content, read⟩
  have alsoRead := (decode?_congr same).symm.trans read
  rw [cachePath, cachePath, decoded, decoded, read, alsoRead]
  rfl

theorem decidesAlike_of_bytes_eq [PatternEngine]
    (same : Percent.bytes request.target.path = Percent.bytes other.target.path) :
    DecidesAlike request other := by
  constructor
  case decided =>
    intro readable ruleset method
    rw [cachePath_congr same readable]
    exact ⟨rfl, rfl⟩
  case annotated =>
    intro readable methods gate id verdict response
    simp only [Gate.annotated]
    rw [cachePath_congr same readable, methods]
  case asWritten =>
    intro unreadable
    have alsoUnreadable := (decode?_congr same).symm.trans unreadable
    exact ⟨decoded_of_decode?_eq_none unreadable, decoded_of_decode?_eq_none alsoUnreadable⟩

/-- A letter of a path may be escaped. -/
theorem decidesAlike_of_bytes_eq_letter :
    Percent.bytes "/api/private/x" = Percent.bytes "/api/%70rivate/x" ∧
      (Percent.decode? "/api/private/x").isSome ∧
      DecidesAlike ⟨"GET", ⟨"", "/api/private/x", none⟩, .empty, .empty⟩
        ⟨"GET", ⟨"", "/api/%70rivate/x", none⟩, .empty, .empty⟩ := by
  have same : Percent.bytes "/api/private/x" = Percent.bytes "/api/%70rivate/x" := by decide
  exact ⟨same, by decide, decidesAlike_of_bytes_eq same⟩

/-- Behind bytes that are no text an escaped letter takes a path past the rule
that denies caching. -/
theorem cached_past_denial :
    Percent.bytes "/api/private/%FF" = Percent.bytes "/api/%70rivate/%FF" ∧
      (Ruleset.isCacheable
        ⟨[⟨.deny, some (.beginning "/api/private"), .empty, 600, []⟩,
          ⟨.allow, some (.beginning "/api/"), .empty, 600, []⟩]⟩
        "GET" (cachePath ⟨"GET", ⟨"", "/api/private/%FF", none⟩, .empty, .empty⟩)) = false ∧
      (Ruleset.isCacheable
        ⟨[⟨.deny, some (.beginning "/api/private"), .empty, 600, []⟩,
          ⟨.allow, some (.beginning "/api/"), .empty, 600, []⟩]⟩
        "GET" (cachePath ⟨"GET", ⟨"", "/api/%70rivate/%FF", none⟩, .empty, .empty⟩)) = true := by
  refine ⟨by decide, by decide, by decide⟩

end Gate

end Gatehouse
