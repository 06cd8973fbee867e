import Gatehouse.Bypass
import Gatehouse.Proofs.Text.Escapes
import Mathlib.Data.List.Induction

/-!
# Bypass rules and path segments

Rules and requests are compared as texts: equal up to a slash at the end, or one
the beginning of the other.  What the comparison means is told by segments.  A
path is cut at its slashes and its segments are resolved, and an entry spans the
paths with its own segments and, if it is a directory, all paths below.

Both agree because the normalized text determines the segments.  It is cut into
them again, no kept segment is empty or holds a slash, and the text of a
directory ends with a slash whatever its escapes stand for.
-/

namespace Gatehouse

namespace RequestPath

/-- What is left of written segments: empty ones and single dots are dropped, and
two dots take the last kept segment along, if there is one. -/
inductive Resolves {Symbol : Type} (dot : Symbol) :
    List (List Symbol) → List (List Symbol) → Prop
  | nothing : Resolves dot [] []
  | stay {written kept segment} (soFar : Resolves dot written kept)
      (here : segment = [] ∨ segment = [dot]) : Resolves dot (written ++ [segment]) kept
  | climb {written kept} (soFar : Resolves dot written kept) :
      Resolves dot (written ++ [[dot, dot]]) kept.dropLast
  | descend {written kept segment} (soFar : Resolves dot written kept)
      (notEmpty : segment ≠ []) (notHere : segment ≠ [dot]) (notAbove : segment ≠ [dot, dot]) :
      Resolves dot (written ++ [segment]) (kept ++ [segment])

section Resolving

variable {Symbol : Type} [DecidableEq Symbol] {dot : Symbol} {written kept : List (List Symbol)}

/-- The kept segments after one more. -/
def keep (dot : Symbol) (kept : List (List Symbol)) (segment : List Symbol) :
    List (List Symbol) :=
  if segment = [] ∨ segment = [dot] then kept
  else if segment = [dot, dot] then kept.dropLast
  else kept ++ [segment]

/-- Resolves the segments of any symbols. -/
def resolved (dot : Symbol) (written : List (List Symbol)) : List (List Symbol) :=
  written.foldl (keep dot) []

theorem resolved_concat (written : List (List Symbol)) (segment : List Symbol) :
    resolved dot (written ++ [segment]) = keep dot (resolved dot written) segment := by
  simp [resolved]

theorem resolves_resolved (dot : Symbol) (written : List (List Symbol)) :
    Resolves dot written (resolved dot written) := by
  induction written using List.reverseRecOn with
  | nil => exact .nothing
  | append_singleton written segment ih =>
      rw [resolved_concat]
      unfold keep
      split
      case isTrue here => exact .stay ih here
      case isFalse notHere =>
        rw [not_or] at notHere
        split
        case isTrue above =>
          subst above
          exact .climb ih
        case isFalse notAbove => exact .descend ih notHere.1 notHere.2 notAbove

theorem resolves_iff : Resolves dot written kept ↔ kept = resolved dot written := by
  constructor
  · intro resolves
    induction resolves with
    | nothing => rfl
    | stay soFar here ih => rw [resolved_concat, keep, if_pos here, ih]
    | climb soFar ih => rw [resolved_concat, keep, if_neg (by simp), if_pos rfl, ih]
    | descend soFar notEmpty notHere notAbove ih =>
        rw [resolved_concat, keep, if_neg (not_or.mpr ⟨notEmpty, notHere⟩), if_neg notAbove, ih]
  · rintro rfl
    exact resolves_resolved dot written

instance : Decidable (Resolves dot written kept) :=
  decidable_of_iff _ resolves_iff.symm

end Resolving

/-- The resolved segments of the text that a path stands for. -/
def HasSegments (path : String) (kept : List (List Char)) : Prop :=
  Resolves '.' ((decoded path).toList.splitOn '/') kept

/-- A segment that resolution keeps. -/
structure IsName (segment : List Char) : Prop where
  ne_nil : segment ≠ []
  ne_here : segment ≠ ['.']
  ne_above : segment ≠ ['.', '.']
  slash_not_mem : '/' ∉ segment

variable {written kept own requested : List (List Char)} {segment characters : List Char}

theorem reverse_enter (stack : List (List Char)) (segment : List Char) :
    (enter stack segment).reverse = keep '.' stack.reverse segment := by
  unfold enter keep
  split
  · rfl
  · split
    · exact List.dropLast_reverse.symm
    · exact List.reverse_cons

theorem resolve_eq_resolved (written : List (List Char)) :
    resolve written = resolved '.' written := by
  induction written using List.reverseRecOn with
  | nil => rfl
  | append_singleton written segment ih =>
      rw [resolve] at ih
      rw [resolved_concat, ← ih, ← reverse_enter, resolve]
      simp

theorem resolves_resolve (written : List (List Char)) : Resolves '.' written (resolve written) :=
  resolves_iff.mpr (resolve_eq_resolved written)

theorem hasSegments_iff {path : String} : HasSegments path kept ↔ kept = segments path := by
  rw [HasSegments, resolves_iff, ← resolve_eq_resolved]
  rfl

theorem Resolves.isName (resolves : Resolves '.' written kept)
    (noSlash : ∀ segment ∈ written, '/' ∉ segment) : ∀ segment ∈ kept, IsName segment := by
  induction resolves with
  | nothing => simp
  | stay soFar here ih =>
      exact ih fun segment segmentMem => noSlash segment (by simp [segmentMem])
  | climb soFar ih =>
      intro segment segmentMem
      apply ih
      · exact fun segment segmentMem => noSlash segment (by simp [segmentMem])
      · exact List.dropLast_subset _ segmentMem
  | descend soFar notEmpty notHere notAbove ih =>
      intro segment segmentMem
      rw [List.mem_append, List.mem_singleton] at segmentMem
      rcases segmentMem with earlier | rfl
      · exact ih (fun segment segmentMem => noSlash segment (by simp [segmentMem])) _ earlier
      · exact ⟨notEmpty, notHere, notAbove, noSlash _ (by simp)⟩

/-- Segments, each behind a slash. -/
def slashed (kept : List (List Char)) : List Char :=
  kept.flatMap fun segment => '/' :: segment

@[simp]
theorem slashed_append (own below : List (List Char)) :
    slashed (own ++ below) = slashed own ++ slashed below :=
  List.flatMap_append

theorem rooted_eq_slashed (nonempty : kept ≠ []) : rooted kept = slashed kept := by
  induction kept with
  | nil => exact absurd rfl nonempty
  | cons segment rest ih =>
      cases rest with
      | nil => simp [rooted, slashed]
      | cons next rest =>
          have tail := ih (by simp)
          rw [rooted] at tail ⊢
          rw [List.intercalate_cons_cons, slashed, List.flatMap_cons, ← slashed, ← tail]
          simp

/-- The text of segments is cut into them. -/
theorem splitOn_slashed (noSlash : ∀ segment ∈ kept, '/' ∉ segment) :
    (slashed kept).splitOn '/' = [] :: kept := by
  induction kept using List.reverseRecOn with
  | nil => rfl
  | append_singleton kept segment ih =>
      have last : slashed [segment] = '/' :: segment := by simp [slashed]
      rw [slashed_append, last, List.splitOn_append_cons_self, ih, List.splitOn_eq_singleton]
      · rfl
      · exact noSlash segment (by simp)
      · exact fun segment segmentMem => noSlash segment (by simp [segmentMem])

theorem splitOn_slashed_slash (noSlash : ∀ segment ∈ kept, '/' ∉ segment) (rest : List Char) :
    (slashed kept ++ '/' :: rest).splitOn '/' = [] :: kept ++ rest.splitOn '/' := by
  rw [List.splitOn_append_cons_self, splitOn_slashed noSlash]

theorem rooted_injective (names : ∀ segment ∈ kept, IsName segment)
    (ownNames : ∀ segment ∈ own, IsName segment) (same : rooted kept = rooted own) :
    kept = own := by
  have pieces : ∀ segments : List (List Char), (∀ segment ∈ segments, IsName segment) →
      ((rooted segments).splitOn '/').filter (fun segment => !segment.isEmpty) = segments := by
    intro segments names
    by_cases empty : segments = []
    · subst empty
      rfl
    · rw [rooted_eq_slashed empty, splitOn_slashed fun segment segmentMem =>
        (names segment segmentMem).slash_not_mem]
      simpa using fun segment segmentMem => (names segment segmentMem).ne_nil
  rw [← pieces kept names, ← pieces own ownNames, same]

/-- What lies below a directory starts with its text. -/
theorem slashed_slash_prefix_slashed (below : own <+: requested) (proper : requested ≠ own) :
    slashed own ++ ['/'] <+: slashed requested := by
  rcases below with ⟨rest, rfl⟩
  cases rest with
  | nil => simp at proper
  | cons next rest =>
      refine ⟨next ++ slashed rest, ?_⟩
      simp [slashed]

/-- What starts with the text of a directory lies below it or is the directory. -/
theorem prefix_of_slashed_slash_prefix {ending : List Char} (ends : ending = [] ∨ ending = ['/'])
    (ownNames : ∀ segment ∈ own, IsName segment)
    (names : ∀ segment ∈ requested, IsName segment)
    (starts : slashed own ++ ['/'] <+: slashed requested ++ ending) : own <+: requested := by
  have ownNoSlash := fun segment segmentMem => (ownNames segment segmentMem).slash_not_mem
  have noSlash := fun segment segmentMem => (names segment segmentMem).slash_not_mem
  rcases starts with ⟨rest, same⟩
  have cut := congrArg (List.splitOn '/') same
  rw [List.append_assoc, List.singleton_append, splitOn_slashed_slash ownNoSlash] at cut
  rcases ends with rfl | rfl
  · rw [List.append_nil, splitOn_slashed noSlash, List.cons_append, List.cons.injEq] at cut
    exact ⟨_, cut.2⟩
  · rw [splitOn_slashed_slash noSlash, List.splitOn_nil, List.cons_append, List.cons_append,
      List.cons.injEq] at cut
    have short := congrArg List.dropLast cut.2
    rw [List.dropLast_append_of_ne_nil (List.splitOn_ne_nil _ _), List.dropLast_concat] at short
    exact ⟨_, short⟩

theorem isName_of_mem_resolve (characters : List Char) :
    ∀ segment ∈ resolve (characters.splitOn '/'), IsName segment := by
  apply (resolves_resolve _).isName
  intro segment segmentMem
  exact Text.not_mem_of_mem_splitOn segmentMem

theorem rooted_ne_root (names : ∀ segment ∈ kept, IsName segment) (nonempty : kept ≠ []) :
    rooted kept ≠ ['/'] := by
  intro root
  exact nonempty (rooted_injective names (by simp) root)

theorem getLast?_rooted (names : ∀ segment ∈ kept, IsName segment) (nonempty : kept ≠ []) :
    (rooted kept).getLast? ≠ some '/' := by
  have noSlash := fun segment segmentMem => (names segment segmentMem).slash_not_mem
  rw [rooted_eq_slashed nonempty]
  intro slash
  rcases List.getLast?_eq_some_iff.mp slash with ⟨front, same⟩
  have cut := congrArg (List.splitOn '/') same
  rw [splitOn_slashed noSlash, List.splitOn_append_cons_self, List.splitOn_nil] at cut
  have last : ([] :: kept).getLast? = some [] := by
    rw [cut]
    simp
  rw [List.getLast?_cons_of_ne_nil nonempty] at last
  exact (names [] (List.mem_of_getLast? last)).ne_nil rfl

/-- Normalized text is the kept segments, each behind a slash, with one more slash behind them if
there is none of them or the text has one at its end. -/
theorem normalizeChars_eq (characters : List Char) :
    normalizeChars characters = slashed (resolve (characters.splitOn '/')) ++
      if resolve (characters.splitOn '/') = [] ∨ characters.getLast? = some '/' then ['/']
      else [] := by
  have names := isName_of_mem_resolve characters
  simp only [normalizeChars]
  generalize resolve (characters.splitOn '/') = kept at names
  by_cases empty : kept = []
  · subst empty
    simp [rooted, slashed]
  · have notRoot := rooted_ne_root names empty
    rw [rooted_eq_slashed empty] at notRoot ⊢
    by_cases slash : characters.getLast? = some '/'
    · rw [if_pos ⟨slash, notRoot⟩, if_pos (.inr slash)]
    · rw [if_neg (slash ·.1), if_neg (not_or.mpr ⟨empty, slash⟩), List.append_nil]

/-- A path that ends with a slash keeps one. -/
theorem normalizeChars_of_getLast? (slash : characters.getLast? = some '/') :
    normalizeChars characters = slashed (resolve (characters.splitOn '/')) ++ ['/'] := by
  rw [normalizeChars_eq, if_pos (.inr slash)]

theorem withoutFinalSlash_slashed_slash (kept : List (List Char)) :
    withoutFinalSlash (slashed kept ++ ['/']) = rooted kept := by
  by_cases empty : kept = []
  · subst empty
    rfl
  · have notRoot : slashed kept ++ ['/'] ≠ ['/'] := by
      cases kept with
      | nil => exact absurd rfl empty
      | cons segment rest => simp [slashed]
    rw [withoutFinalSlash, if_neg notRoot, if_pos (by simp), List.dropLast_concat,
      rooted_eq_slashed empty]

theorem withoutFinalSlash_slashed (names : ∀ segment ∈ kept, IsName segment)
    (nonempty : kept ≠ []) : withoutFinalSlash (slashed kept) = rooted kept := by
  have notRoot := rooted_ne_root names nonempty
  have noSlash := getLast?_rooted names nonempty
  rw [← rooted_eq_slashed nonempty, withoutFinalSlash, if_neg notRoot, if_neg noSlash]

theorem withoutFinalSlash_normalizeChars (characters : List Char) :
    withoutFinalSlash (normalizeChars characters) =
      rooted (resolve (characters.splitOn '/')) := by
  rw [normalizeChars_eq]
  split
  case isTrue => exact withoutFinalSlash_slashed_slash _
  case isFalse unended =>
    rw [List.append_nil]
    exact withoutFinalSlash_slashed (isName_of_mem_resolve _) (not_or.mp unended).1

theorem decoded_of_standsFor {path content : String}
    (stands : Percent.StandsFor path.toList content.toList) : decoded path = content := by
  rw [decoded, Percent.decode?_eq_some_iff.mpr stands]
  rfl

theorem decoded_of_decode?_eq_none {path : String} (undecodable : Percent.decode? path = none) :
    decoded path = path := by
  rw [decoded, undecodable]
  rfl

theorem getLast?_decoded {path : String} (slash : path.toList.getLast? = some '/') :
    (decoded path).toList.getLast? = some '/' := by
  cases read : Percent.decode? path with
  | none =>
      rw [decoded_of_decode?_eq_none read]
      exact slash
  | some content =>
      have stands := Percent.decode?_eq_some_iff.mp read
      rw [decoded_of_standsFor stands]
      rcases List.getLast?_eq_some_iff.mp slash with ⟨front, cut⟩
      rw [cut] at stands
      rcases Percent.standsFor_append_cons_iff.mp stands with
        ⟨before, behind, contentEq, -, standsBehind⟩
      have nothing := standsBehind.unique Percent.standsFor_nil
      rw [contentEq, nothing]
      simp

theorem decoded_up (path : String) : decoded ("/../" ++ path) = "/../" ++ decoded path := by
  have written : ("/../" ++ path).toList = "/..".toList ++ '/' :: path.toList := by simp
  have up : Percent.StandsFor "/..".toList "/..".toList := by decide
  cases read : Percent.decode? path with
  | none =>
      have unread : Percent.decode? ("/../" ++ path) = none := by
        rw [Option.eq_none_iff_forall_ne_some] at read ⊢
        intro content readAll
        have stands := Percent.decode?_eq_some_iff.mp readAll
        rw [written] at stands
        rcases Percent.standsFor_append_cons_iff.mp stands with ⟨-, back, -, -, standsBack⟩
        refine read (.ofList back) (Percent.decode?_eq_some_iff.mpr ?_)
        simpa using standsBack
      rw [decoded_of_decode?_eq_none read, decoded_of_decode?_eq_none unread]
  | some content =>
      have stands := Percent.decode?_eq_some_iff.mp read
      rw [decoded_of_standsFor stands]
      apply decoded_of_standsFor
      rw [written, Percent.standsFor_append_cons_iff]
      exact ⟨_, _, by simp, up, stands⟩

/-- Nothing lies above the root. -/
theorem segments_up (path : String) : segments ("/../" ++ path) = segments path := by
  have written : ("/../" ++ decoded path).toList =
      "/..".toList ++ '/' :: (decoded path).toList := by
    simp
  rw [segments, decoded_up, written, List.splitOn_append_cons_self]
  rfl

end RequestPath

open RequestPath

variable {entry : BypassEntry} {path other : String}

namespace BypassEntry

/-- The entry admits segments: they are its own or, if the entry ends with a
slash, start with its own. -/
def Admits {Symbol : Type} (entry : BypassEntry) (own requested : List (List Symbol)) : Prop :=
  requested = own ∨ entry.path.toList.getLast? = some '/' ∧ own <+: requested

instance {Symbol : Type} [DecidableEq Symbol] (entry : BypassEntry)
    (own requested : List (List Symbol)) : Decidable (entry.Admits own requested) :=
  inferInstanceAs (Decidable (_ ∨ _ ∧ _))

/-- The entry spans a path: it admits the segments of the path. -/
def Spans (entry : BypassEntry) (path : String) : Prop :=
  ∃ own requested, HasSegments entry.path own ∧ HasSegments path requested ∧
    entry.Admits own requested

theorem spans_iff :
    entry.Spans path ↔ segments path = segments entry.path ∨
      entry.path.toList.getLast? = some '/' ∧ segments entry.path <+: segments path := by
  simp [Spans, Admits, hasSegments_iff]

theorem isDirectory_iff : entry.isDirectory ↔ entry.path.toList.getLast? = some '/' := by
  rw [isDirectory, Text.endsWith, List.isSuffixOf_iff_suffix]
  exact List.singleton_suffix_iff_getLast?_eq_some

theorem agree_normalize_iff :
    agree (RequestPath.normalize path) (RequestPath.normalize other) ↔
      segments path = segments other := by
  rw [agree, beq_iff_eq, RequestPath.normalize, RequestPath.normalize, String.toList_ofList,
    String.toList_ofList, withoutFinalSlash_normalizeChars, withoutFinalSlash_normalizeChars]
  constructor
  · exact rooted_injective (isName_of_mem_resolve _) (isName_of_mem_resolve _)
  · exact congrArg rooted

theorem normalize_of_getLast? (slash : other.toList.getLast? = some '/') :
    (RequestPath.normalize other).toList = slashed (segments other) ++ ['/'] := by
  rw [RequestPath.normalize, String.toList_ofList,
    normalizeChars_of_getLast? (getLast?_decoded slash)]
  rfl

theorem exists_normalize_eq (path : String) :
    ∃ ending, (ending = [] ∨ ending = ['/']) ∧
      (RequestPath.normalize path).toList = slashed (segments path) ++ ending := by
  rw [RequestPath.normalize, String.toList_ofList, normalizeChars_eq]
  refine ⟨_, ?_, rfl⟩
  split
  · exact .inr rfl
  · exact .inl rfl

theorem covers_normalize_iff : entry.covers (RequestPath.normalize path) ↔ entry.Spans path := by
  rw [covers, Bool.or_eq_true, Bool.and_eq_true, normalized, agree_normalize_iff, isDirectory_iff,
    spans_iff, Text.startsWith, List.isPrefixOf_iff_prefix]
  rcases exists_normalize_eq path with ⟨ending, ends, requestEq⟩
  constructor
  · rintro (same | ⟨slash, starts⟩)
    · exact .inl same
    · rw [normalize_of_getLast? slash, requestEq] at starts
      exact .inr ⟨slash, prefix_of_slashed_slash_prefix ends (isName_of_mem_resolve _)
        (isName_of_mem_resolve _) starts⟩
  · rintro (same | ⟨slash, below⟩)
    · exact .inl same
    · by_cases same : segments path = segments entry.path
      · exact .inl same
      · refine .inr ⟨slash, ?_⟩
        rw [normalize_of_getLast? slash, requestEq]
        exact (slashed_slash_prefix_slashed below same).trans (List.prefix_append _ _)

end BypassEntry

namespace Ruleset

/-- What a ruleset asks for a path is told by segments. -/
structure JudgesBySegments (ruleset : Ruleset BypassEntry) (path : String) : Prop where
  /-- The first entry that spans the path decides. -/
  decided : ∀ before entry behind, ruleset.rules = before ++ entry :: behind →
    entry.Spans path → (∀ earlier ∈ before, ¬earlier.Spans path) →
      ruleset.bypassAction path = entry.action
  /-- If none spans it, nothing is asked for. -/
  undecided : (∀ entry ∈ ruleset.rules, ¬entry.Spans path) → ruleset.bypassAction path = .none
  /-- A path that climbs above the root is judged as if it started there. -/
  climbed : ruleset.bypassAction ("/../" ++ path) = ruleset.bypassAction path
  /-- What only starts like the last segment of an entry is not spanned by it. -/
  neighbour : ∀ (entry : BypassEntry) own name longer below,
    HasSegments entry.path (own ++ [name]) → HasSegments path (own ++ longer :: below) →
      longer ≠ name → ¬entry.Spans path

theorem bypassAction_congr {path other : String} (ruleset : Ruleset BypassEntry)
    (same : segments path = segments other) :
    ruleset.bypassAction path = ruleset.bypassAction other := by
  have spans : ∀ entry : BypassEntry, entry.covers (RequestPath.normalize path) ↔
      entry.covers (RequestPath.normalize other) := by
    intro entry
    rw [BypassEntry.covers_normalize_iff, BypassEntry.covers_normalize_iff,
      BypassEntry.spans_iff, BypassEntry.spans_iff, same]
  rcases ruleset.bypassAction_cases path with
    ⟨none, nothing⟩ | ⟨before, entry, behind, rules, covers, first, action⟩
  · rcases ruleset.bypassAction_cases other with
      ⟨-, alsoNothing⟩ | ⟨before, entry, behind, rules, covers, -, -⟩
    · rw [nothing, alsoNothing]
    · exact absurd ((spans entry).mpr covers) (none entry (by simp [rules]))
  · rw [action]
    apply (bypassAction_of_first rules ((spans entry).mp covers) ?_).symm
    exact fun earlier earlierMem => (spans earlier).not.mp (first earlier earlierMem)

theorem not_spans_of_neighbour {entry : BypassEntry} {path : String}
    {own below : List (List Char)} {name longer : List Char}
    (ownSegments : HasSegments entry.path (own ++ [name]))
    (requested : HasSegments path (own ++ longer :: below)) (differs : longer ≠ name) :
    ¬entry.Spans path := by
  rw [BypassEntry.spans_iff, ← hasSegments_iff.mp ownSegments, ← hasSegments_iff.mp requested]
  rintro (same | ⟨-, starts⟩)
  · rw [List.append_cancel_left_eq, List.cons.injEq] at same
    exact differs same.1
  · rw [List.prefix_append_right_inj, List.cons_prefix_cons] at starts
    exact differs starts.1.symm

/-- Bypass rules are the first match over path segments. -/
theorem bypassAction_by_segments (ruleset : Ruleset BypassEntry) (path : String) :
    ruleset.JudgesBySegments path ∧
      ∀ file, ¬BypassEntry.Spans ⟨"/admin/", file⟩ "/administration" := by
  refine ⟨?_, ?_⟩
  · constructor
    case decided =>
      intro before entry behind rules spans first
      apply bypassAction_of_first rules (BypassEntry.covers_normalize_iff.mpr spans)
      intro earlier earlierMem covers
      exact first earlier earlierMem (BypassEntry.covers_normalize_iff.mp covers)
    case undecided =>
      intro none
      rcases ruleset.bypassAction_cases path with
        ⟨-, nothing⟩ | ⟨before, entry, behind, rules, covers, -, -⟩
      · exact nothing
      · have spans := BypassEntry.covers_normalize_iff.mp covers
        exact absurd spans (none entry (by simp [rules]))
    case climbed => exact ruleset.bypassAction_congr (segments_up path)
    case neighbour =>
      intro entry own name longer below
      exact not_spans_of_neighbour
  · intro file
    have own : HasSegments "/admin/" ["admin".toList] := hasSegments_iff.mpr (by decide)
    have requested : HasSegments "/administration" ["administration".toList] :=
      hasSegments_iff.mpr (by decide)
    exact @not_spans_of_neighbour ⟨"/admin/", file⟩ _ [] _ _ _ own requested (by decide)

end Ruleset

end Gatehouse
