import Gatehouse.Pattern.Engine
import Gatehouse.Proofs.Gate.Crossing
import Gatehouse.Proofs.Gate.Mediation
import Gatehouse.Proofs.Gate.Spellings
import Gatehouse.Proofs.Http.Resolution
import Gatehouse.Proofs.Http.Sites

/-!
# The path that the application is asked for

The gate judges the path of a request, and the application is asked for the path
that its client makes of it.  The client cleans segments that the gate reads
otherwise, so the two can be judged differently: `..` may take along an empty
segment or one that hides a slash, a backslash may turn into a slash, a cache rule
sees dots that are gone behind the gate, and bytes that are no text keep the gate
from decoding at all.  Elsewhere both are judged alike.
-/

namespace Gatehouse

open Http (Request Response Target Url)
open Http.Url (ClimbsPlainly IsDotFree IsSite writtenSegments)
open RequestPath (decoded)

namespace Gate

theorem decode?_path_of_isDotFree {request : Request} {url : Url}
    (hasPath : request.target.HasPath)
    (noBackslash : '\\' ∉ request.target.path.toList)
    (dotFree : IsDotFree (writtenSegments request.target.path))
    (resolved : url.segments = Url.resolvePath request.target.path.toList) :
    Percent.decode? url.path = Percent.decode? request.target.path := by
  apply decode?_congr
  rw [Percent.bytes_eq, Percent.bytes_eq,
    Url.toList_path_of_isDotFree hasPath.rooted noBackslash dotFree resolved,
    Url.decodeBytes_flatMap_escapeChar]

theorem target_named (fresh : String) (request : Request) :
    (named fresh request).target = request.target := by
  unfold named
  split <;> rfl

theorem body_named (fresh : String) (request : Request) :
    (named fresh request).body = request.body := by
  unfold named
  split <;> rfl

section

variable [PatternEngine]

/-- The gate judges what the application is asked for. -/
structure JudgesWhatIsAsked (request : Request) (url : Url) : Prop where
  /-- If the decoded bytes are a text, bypass rules ask for the same where `..` is plain. -/
  bypass : (Percent.decode? request.target.path).isSome →
    ClimbsPlainly [] (writtenSegments request.target.path) →
    ∀ ruleset : Ruleset BypassEntry,
      ruleset.bypassAction request.target.path = ruleset.bypassAction url.path
  /-- If the decoded bytes are a text, cache rules decide the same where there are no dots. -/
  cache : (Percent.decode? request.target.path).isSome →
    IsDotFree (writtenSegments request.target.path) →
    ∀ (ruleset : Ruleset CacheRule) (method : String),
      ruleset.decidingPosition method (cachePath request) =
          ruleset.decidingPosition method (decoded url.path) ∧
        ruleset.isCacheable method (cachePath request) =
          ruleset.isCacheable method (decoded url.path)
  /-- Without dots and characters that are escaped, the path is asked for as it is written. -/
  unchanged : IsDotFree (writtenSegments request.target.path) →
    (∀ character ∈ request.target.path.toList, ¬Url.escapedInPath character) →
      url.path = request.target.path

variable {gate : Gate} {fresh : String} {request : Request} {backend : Backend}
  {scheme slashes authority : List Char} {url : Url}

theorem eq_named_of_mem_passedOn {behind : Request → Response} {passed : Request}
    (passedMem : passed ∈ (gate.pass fresh behind request).passedOn) :
    passed = named fresh request := by
  have passes := passes_pass gate fresh behind request
  generalize gate.pass fresh behind request = passage at passes passedMem
  cases passes with
  | blocked asked blocks => cases passedMem
  | inspected asked allows => exact List.mem_singleton.mp passedMem
  | bypassed spared => exact List.mem_singleton.mp passedMem

theorem judgesWhatIsAsked_of_resolvePath (hasPath : request.target.HasPath)
    (noBackslash : '\\' ∉ request.target.path.toList)
    (resolved : url.segments = Url.resolvePath request.target.path.toList) :
    JudgesWhatIsAsked request url := by
  constructor
  case bypass =>
    intro readable plain ruleset
    apply ruleset.bypassAction_congr
    exact (Url.segments_path hasPath.rooted noBackslash readable plain resolved).symm
  case cache =>
    intro readable dotFree ruleset method
    rcases Option.isSome_iff_exists.mp readable with ⟨content, read⟩
    have askedRead := (decode?_path_of_isDotFree hasPath noBackslash dotFree resolved).trans read
    rw [cachePath, decoded, decoded, read, askedRead]
    exact ⟨rfl, rfl⟩
  case unchanged =>
    intro dotFree kept
    have same : request.target.path.toList.flatMap (Url.escapeChar Url.escapedInPath) =
        request.target.path.toList := by
      rw [List.flatMap_congr fun character characterMem =>
        Url.escapeChar_of_kept (kept character characterMem)]
      exact List.flatMap_singleton' _
    rw [← String.toList_inj, ← same]
    exact Url.toList_path_of_isDotFree hasPath.rooted noBackslash dotFree resolved

/-- A request that is passed on is asked for at most once, and the gate has judged it by what it
is asked for. -/
theorem passedOn_judgesWhatIsAsked (site : IsSite backend.base scheme slashes authority)
    (hasPath : request.target.HasPath) (noBackslash : '\\' ∉ request.target.path.toList)
    (gate : Gate) (fresh : String) (exchange : Exchange) :
    ∀ passed ∈ (gate.pass fresh (Backend.answer (some backend) exchange) request).passedOn,
      ((backend.asked exchange passed).length =
        if request.body.size ≤ Backend.bodyLimit ∧ Url.isAuthority backend.isHost authority then 1
        else 0) ∧
      ∀ outbound ∈ backend.asked exchange passed, JudgesWhatIsAsked request outbound.url := by
  intro passed passedMem
  rw [eq_named_of_mem_passedOn passedMem]
  constructor
  · rcases Url.exists_parse?_eq site hasPath backend.isHost with ⟨url, -, read⟩
    rw [Backend.asked_eq, Backend.outbound?, target_named, body_named, read]
    by_cases short : request.body.size ≤ Backend.bodyLimit
    · rw [if_neg (Nat.not_lt.mpr short)]
      by_cases taken : Url.isAuthority backend.isHost authority <;> simp [short, taken]
    · rw [if_pos (Nat.not_le.mp short), if_neg fun fits => short fits.1]
      rfl
  · intro outbound asks
    have made := (Backend.mem_asked_iff.mp asks).2
    rw [Backend.outbound?, target_named] at made
    rcases Option.map_eq_some_iff.mp made with ⟨url, read, rfl⟩
    exact judgesWhatIsAsked_of_resolvePath hasPath noBackslash
      (Url.segments_of_parse? site hasPath read)

end

/-- Plain dots, spelled by escapes or not, and a query leave the judgement as it is. -/
theorem passedOn_judgesWhatIsAsked_dots :
    let backend : Backend := { base := "http://app" }
    let exchange : Exchange := fun _ => none
    let request : Request :=
      ⟨"GET", ⟨"", "/a/%2e%2e/static/./app.js", some "v=1"⟩, .empty, .empty⟩
    let gate : Gate := ⟨some ⟨[⟨"/static/", none⟩]⟩, none, fun _ => ⟨true, ["rule-1"]⟩⟩
    IsSite backend.base "http".toList "//".toList "app".toList ∧ request.target.HasPath ∧
      '\\' ∉ request.target.path.toList ∧ (Percent.decode? request.target.path).isSome ∧
      ClimbsPlainly [] (writtenSegments request.target.path) ∧
      ∃ passed ∈ (gate.pass "" (Backend.answer (some backend) exchange) request).passedOn,
        ∃ outbound ∈ backend.asked exchange passed,
          outbound.url.path = "/static/app.js" ∧ JudgesWhatIsAsked request outbound.url := by
  intro backend exchange request gate
  have site : IsSite "http://app" "http".toList "//".toList "app".toList :=
    ⟨by decide, by decide, by simp [Url.isSeparator], by decide, by simp [Url.isSeparator]⟩
  have hasPath : request.target.HasPath := ⟨by decide, by simp [request]⟩
  have noBackslash : '\\' ∉ request.target.path.toList := by decide
  have asks : (gate.pass "" (Backend.answer (some backend) exchange) request).passedOn.flatMap
      (fun passed => (backend.asked exchange passed).map (·.url.path)) = ["/static/app.js"] := by
    decide
  have pathMem := asks ▸ List.mem_singleton_self "/static/app.js"
  rcases List.mem_flatMap.mp pathMem with ⟨passed, passedMem, pathMem⟩
  rcases List.mem_map.mp pathMem with ⟨outbound, outboundMem, path⟩
  have judged :=
    passedOn_judgesWhatIsAsked site hasPath noBackslash gate "" exchange passed passedMem
  exact ⟨site, hasPath, noBackslash, by decide, by decide, passed, passedMem, outbound, outboundMem,
    path, judged.2 outbound outboundMem⟩

/-- The application is asked for a path for which one rule asks otherwise. -/
def JudgesApart (base rule path asked : String) : Prop :=
  (Backend.asked { base := base } (fun _ => none)
      ⟨"GET", ⟨"", path, none⟩, .empty, .empty⟩).map (·.url.path) = [asked] ∧
    Ruleset.bypassAction ⟨[⟨rule, none⟩]⟩ path ≠ Ruleset.bypassAction ⟨[⟨rule, none⟩]⟩ asked

instance (base rule path asked : String) : Decidable (JudgesApart base rule path asked) :=
  inferInstanceAs (Decidable (_ ∧ _))

/-- A request is passed on without an inspection, and the application is asked
for a path that no rule passes by.  The judgements part as well over an empty
segment, over a backslash, over bytes that are no text, over a target without a
path and at a base with a query; and what may be cached parts over plain dots. -/
theorem passedBy_for_another_path :
    (Gate.pass ⟨some ⟨[⟨"/a/", none⟩]⟩, none, fun _ => ⟨true, ["rule-1"]⟩⟩ ""
        (Backend.answer (some { base := "http://app" }) fun _ => none)
        ⟨"GET", ⟨"", "/a%2Fb/../c", none⟩, .empty, .empty⟩).passedOn.flatMap
          (fun passed => (Backend.asked { base := "http://app" } (fun _ => none) passed).map
            (·.url.path)) =
        ["/c"] ∧
      JudgesApart "http://app" "/a/" "/a%2Fb/../c" "/c" ∧
      JudgesApart "http://app" "/b" "/a//../b" "/a/b" ∧
      JudgesApart "http://app" "/static/" "/static/\\..\\..\\admin" "/admin" ∧
      JudgesApart "http://app" "/static/" "/static/%2e%2e/%FF" "/%FF" ∧
      JudgesApart "http://app" "/%2561" "/%FF/../%61" "/%61" ∧
      JudgesApart "http://app" "/\"/" "/\"/%FF" "/%22/%FF" ∧
      JudgesApart "http://app" "/*" "*" "/" ∧
      JudgesApart "http://app?to=" "/static/" "/static/" "/" ∧
      (Backend.asked { base := "http://app" } (fun _ => none)
          ⟨"GET", ⟨"", "/api/open/../private", none⟩, .empty, .empty⟩).map (·.url.path) =
        ["/api/private"] ∧
      Ruleset.isCacheable
          ⟨[⟨.deny, some (.beginning "/api/private"), .empty, 600, []⟩,
            ⟨.allow, some (.beginning "/api/"), .empty, 600, []⟩]⟩
          "GET" (cachePath ⟨"GET", ⟨"", "/api/open/../private", none⟩, .empty, .empty⟩) = true ∧
      Ruleset.isCacheable
          ⟨[⟨.deny, some (.beginning "/api/private"), .empty, 600, []⟩,
            ⟨.allow, some (.beginning "/api/"), .empty, 600, []⟩]⟩
          "GET" (decoded "/api/private") = false := by
  refine ⟨by decide, by decide, by decide, by decide, by decide, by decide, by decide, by decide,
    by decide, by decide, by decide, by decide⟩

end Gate

end Gatehouse
