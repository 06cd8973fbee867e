import Gatehouse.Http.Target
import Gatehouse.Proofs.Http.Escaping

/-!
# Reading the URL of a path at a site

A site is a scheme and an authority.  A path behind it is read as it is written,
whatever query follows, because nothing in front of the query ends the path
earlier or is dropped from it.
-/

namespace Gatehouse

namespace Http

/-- The target has a path: it starts with a slash, and neither a blank nor the
marks of a query and a fragment end it earlier. -/
structure Target.HasPath (target : Target) : Prop where
  rooted : target.path.toList.head? = some '/'
  plain : ∀ character ∈ target.path.toList, 0x20 < character.toNat ∧ character ∉ ['?', '#']

namespace Url

/-- The text is a scheme of web servers and an authority, without a path, a query
or a fragment. -/
structure IsSite (base : String) (scheme slashes authority : List Char) : Prop where
  written : base.toList = scheme ++ ':' :: (slashes ++ authority)
  known : String.ofList (Text.asciiLowerChars scheme) ∈ ["http", "https"]
  separators : ∀ character ∈ slashes, isSeparator character
  nonempty : authority ≠ []
  plain : ∀ character ∈ authority,
    0x20 < character.toNat ∧ ¬isSeparator character ∧ character ∉ ['?', '#']

open Text

variable {front behind scheme slashes authority : List Char} {base : String} {target : Target}
  {isHost : List Char → Bool}

theorem dropWhile_append_of_visible {edge : Char → Bool}
    (visible : ∀ character ∈ behind, ¬edge character) (front : List Char) :
    (front ++ behind).dropWhile edge = front.dropWhile edge ++ behind := by
  have kept : behind.dropWhile edge = behind := by
    cases behind with
    | nil => rfl
    | cons first rest => exact List.dropWhile_cons_of_neg (visible first List.mem_cons_self)
  rw [List.dropWhile_append]
  split
  case isTrue nothing => rw [List.isEmpty_iff.mp nothing, kept, List.nil_append]
  case isFalse => rfl

theorem exists_strip_eq (nonempty : front ≠ [])
    (visible : ∀ character ∈ front, 0x20 < character.toNat) (behind : List Char) :
    ∃ rest, strip (front ++ behind) = front ++ rest ∧ (behind = [] → rest = []) := by
  have noEdge : ∀ character ∈ front, ¬decide (character.toNat ≤ 0x20) := by
    intro character characterMem
    simpa using visible character characterMem
  have start : (front ++ behind).dropWhile (fun character => decide (character.toNat ≤ 0x20)) =
      front ++ behind := by
    rcases List.exists_cons_of_ne_nil nonempty with ⟨first, rest, rfl⟩
    exact List.dropWhile_cons_of_neg (noEdge first List.mem_cons_self)
  have noLineEnd : front.filter (fun character => !(['\t', '\n', '\r'].contains character)) =
      front := by
    rw [List.filter_eq_self]
    intro character characterMem
    have codes : ∀ blank ∈ ['\t', '\n', '\r'], blank.toNat ≤ 0x20 := by simp
    rw [Bool.not_eq_true', ← Bool.not_eq_true, List.contains_iff_mem]
    intro blank
    exact absurd (codes character blank) (Nat.not_le.mpr (visible character characterMem))
  unfold strip
  dsimp only
  rw [start, List.reverse_append, dropWhile_append_of_visible (by simpa using noEdge),
    List.reverse_append, List.reverse_reverse, List.filter_append, noLineEnd]
  refine ⟨_, rfl, ?_⟩
  rintro rfl
  rfl

theorem IsSite.le_of_mem_scheme (site : IsSite base scheme slashes authority) :
    ∀ character ∈ scheme, 0x41 ≤ character.toNat := by
  intro character characterMem
  have letters : ∀ known ∈ ["http", "https"], ∀ letter ∈ known.toList, 0x61 ≤ letter.toNat := by
    simp
  have small : 0x61 ≤ character.toLower.toNat := by
    apply letters _ site.known
    rw [String.toList_ofList]
    exact List.mem_map_of_mem characterMem
  rcases cases_toLower character with ⟨capital, -, -⟩ | kept
  · exact capital
  · rw [kept] at small
    omega

theorem IsSite.plain_of_mem (site : IsSite base scheme slashes authority) :
    ∀ character ∈ base.toList, 0x20 < character.toNat ∧ character ≠ '#' := by
  have hash : ('#' : Char).toNat = 0x23 := by decide
  intro character characterMem
  rw [site.written, List.mem_append, List.mem_cons, List.mem_append] at characterMem
  rcases characterMem with inScheme | rfl | inSlashes | inAuthority
  · have letter := site.le_of_mem_scheme character inScheme
    refine ⟨by omega, ?_⟩
    rintro rfl
    omega
  · decide
  · have separator := site.separators character inSlashes
    simp only [isSeparator, Bool.or_eq_true, decide_eq_true_eq] at separator
    rcases separator with rfl | rfl <;> decide
  · rcases site.plain character inAuthority with ⟨visible, -, noMark⟩
    refine ⟨visible, ?_⟩
    rintro rfl
    simp at noMark

/-- Visible characters in front of a fragment are read as they are written. -/
theorem exists_takeWhile_strip_eq (nonempty : front ≠ [])
    (plain : ∀ character ∈ front, 0x20 < character.toNat ∧ character ≠ '#') (behind : List Char) :
    ∃ rest, (strip (front ++ behind)).takeWhile (· ≠ '#') = front ++ rest ∧
      (behind = [] → rest = []) := by
  rcases exists_strip_eq nonempty (fun character characterMem => (plain character characterMem).1)
    behind with ⟨rest, stripped, nothing⟩
  refine ⟨rest.takeWhile (· ≠ '#'), ?_, ?_⟩
  · rw [stripped, List.takeWhile_append_of_pos]
    intro character characterMem
    simpa using (plain character characterMem).2
  · intro empty
    rw [nothing empty]
    rfl

theorem exists_written_eq (site : IsSite base scheme slashes authority)
    (hasPath : target.HasPath) :
    ∃ suffix, (strip (base ++ target.pathAndQuery).toList).takeWhile (· ≠ '#') =
        base.toList ++ (target.path.toList ++ suffix) ∧
      (suffix = [] ∨ suffix.head? = some '?') := by
  have notEmpty : target.path ≠ "" := by
    intro empty
    have rooted := hasPath.rooted
    rw [empty] at rooted
    cases rooted
  have nonempty : base.toList ++ target.path.toList ≠ [] := by
    simp [notEmpty]
  have plain : ∀ character ∈ base.toList ++ target.path.toList,
      0x20 < character.toNat ∧ character ≠ '#' := by
    intro character characterMem
    rcases List.mem_append.mp characterMem with inBase | inPath
    · exact site.plain_of_mem character inBase
    · rcases hasPath.plain character inPath with ⟨visible, noMark⟩
      refine ⟨visible, ?_⟩
      rintro rfl
      simp at noMark
  rw [Target.pathAndQuery, if_neg notEmpty, Target.querySuffix]
  cases target.query with
  | none =>
      rcases exists_takeWhile_strip_eq nonempty plain [] with ⟨rest, read, nothing⟩
      refine ⟨[], ?_, .inl rfl⟩
      rw [nothing rfl] at read
      simpa using read
  | some query =>
      have marked : ∀ character ∈ base.toList ++ target.path.toList ++ ['?'],
          0x20 < character.toNat ∧ character ≠ '#' := by
        intro character characterMem
        rcases List.mem_append.mp characterMem with inFront | mark
        · exact plain character inFront
        · rw [List.mem_singleton.mp mark]
          decide
      rcases exists_takeWhile_strip_eq (by simp) marked query.toList with ⟨rest, read, -⟩
      refine ⟨'?' :: rest, ?_, .inr rfl⟩
      simpa using read

theorem guard_eq_some {fact : Prop} [Decidable fact] (holds : fact) :
    (guard fact : Option Unit) = some () :=
  if_pos holds

/-- Behind a site a path is read as it is written, if the client takes the authority. -/
theorem exists_parse?_eq (site : IsSite base scheme slashes authority) (hasPath : target.HasPath)
    (isHost : List Char → Bool) :
    ∃ url, url.segments = resolvePath target.path.toList ∧
      parse? isHost (base ++ target.pathAndQuery) =
        if isAuthority isHost authority then some url else none := by
  rcases exists_written_eq site hasPath with ⟨suffix, written, ends⟩
  rcases List.head?_eq_some_iff.mp hasPath.rooted with ⟨body, path⟩
  have noColon : ':' ∉ scheme := by
    intro colonMem
    exact absurd (site.le_of_mem_scheme _ colonMem) (by decide)
  have known : ["http", "https"].contains (String.ofList (asciiLowerChars scheme)) :=
    List.contains_iff_mem.mpr site.known
  have afterSlashes : (slashes ++ (authority ++ (target.path.toList ++ suffix))).dropWhile
      isSeparator = authority ++ (target.path.toList ++ suffix) := by
    rw [List.dropWhile_append_of_pos site.separators]
    rcases List.exists_cons_of_ne_nil site.nonempty with ⟨first, rest, rfl⟩
    exact List.dropWhile_cons_of_neg (site.plain first List.mem_cons_self).2.1
  have upToPath : (authority ++ (target.path.toList ++ suffix)).takeWhile
      (fun character => !isSeparator character && character ≠ '?') = authority := by
    rw [List.takeWhile_append_of_pos, path, List.cons_append, List.takeWhile_cons_of_neg,
      List.append_nil]
    · decide
    · intro character characterMem
      rcases site.plain character characterMem with ⟨-, noSeparator, noMark⟩
      simp at noMark
      simp [noSeparator, noMark]
  -- The cut at the question mark leaves the whole path.
  have noMark : '?' ∉ target.path.toList := by
    intro mark
    exact absurd (hasPath.plain _ mark).2 (by decide)
  rw [site.written, List.append_assoc, List.cons_append, List.append_assoc] at written
  unfold parse?
  dsimp only
  rw [written, cutChars_append noColon]
  dsimp only [Option.bind_eq_bind, Option.bind_some]
  rw [afterSlashes, upToPath, guard_eq_some known, List.drop_left]
  cases taken : isAuthority isHost authority with
  | false =>
      exact ⟨⟨"", "", resolvePath target.path.toList, none⟩, rfl, rfl⟩
  | true =>
      rw [guard_eq_some rfl]
      simp only [if_true]
      rcases ends with rfl | queried
      · rw [List.append_nil, cutChars_eq_none noMark]
        exact ⟨_, rfl, rfl⟩
      · rcases List.head?_eq_some_iff.mp queried with ⟨query, rfl⟩
        rw [cutChars_append noMark]
        exact ⟨_, rfl, rfl⟩

theorem segments_of_parse? {url : Url} (site : IsSite base scheme slashes authority)
    (hasPath : target.HasPath) (read : parse? isHost (base ++ target.pathAndQuery) = some url) :
    url.segments = resolvePath target.path.toList := by
  rcases exists_parse?_eq site hasPath isHost with ⟨other, segments, parsed⟩
  rw [parsed] at read
  rcases Option.ite_none_right_eq_some.mp read with ⟨-, same⟩
  rw [← Option.some.inj same, segments]

end Url

end Http

end Gatehouse
