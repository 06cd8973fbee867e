import Gatehouse.Proofs.Path.Segments

/-!
# Canonical paths

What normalization writes is told without it: a slash, and behind it names between slashes, where
only the last piece may be empty.  These are exactly the texts that cleaning leaves as they are
(`isCanonical_iff_normalizeChars_eq`), so normalization has nothing left to do on its own results
unless they still hold escapes.

A canonical text is its names and whether it ends with a slash.  Two of them agree exactly if they
have the same names.
-/

namespace Gatehouse.RequestPath

variable {characters : List Char} {kept : List (List Char)}

/-- A path as normalization writes it. -/
def IsCanonical (characters : List Char) : Prop :=
  ∃ behind, characters = '/' :: behind ∧
    ∀ before piece after, behind.splitOn '/' = before ++ piece :: after →
      IsName piece ∨ piece = [] ∧ after = []

/-- The segments of a text, those that resolution would take away among them. -/
def names (characters : List Char) : List (List Char) :=
  (characters.splitOn '/').filter fun piece => !piece.isEmpty

/-- The text with a slash in front, unless it has one. -/
def withRoot (characters : List Char) : List Char :=
  if characters.head? = some '/' then characters else '/' :: characters

/-- Names behind slashes, with one more slash at the end or without. -/
inductive IsWritten (kept : List (List Char)) : List Char → Prop
  | plain (nonempty : kept ≠ []) : IsWritten kept (slashed kept)
  | slash : IsWritten kept (slashed kept ++ ['/'])

theorem isWritten_normalizeChars (characters : List Char) :
    IsWritten (resolve (characters.splitOn '/')) (normalizeChars characters) := by
  rw [normalizeChars_eq]
  split
  case isTrue => exact .slash
  case isFalse unended =>
    rw [List.append_nil]
    exact .plain (not_or.mp unended).1

theorem resolved_of_isName (isNames : ∀ segment ∈ kept, IsName segment) :
    resolved '.' kept = kept := by
  induction kept using List.reverseRecOn with
  | nil => rfl
  | append_singleton front segment ih =>
      have last := isNames segment (by simp)
      rw [resolved_concat, ih fun name nameMem => isNames name (by simp [nameMem]), keep,
        if_neg (not_or.mpr ⟨last.ne_nil, last.ne_here⟩), if_neg last.ne_above]

namespace IsWritten

variable (isNames : ∀ segment ∈ kept, IsName segment)

include isNames

/-- The written text has pieces behind its slashes: the names, and an empty one behind a slash at
the end. -/
theorem exists_pieces (written : IsWritten kept characters) :
    ∃ pieces, pieces ≠ [] ∧ (∀ piece ∈ pieces, '/' ∉ piece) ∧ characters = slashed pieces ∧
      (pieces = kept ∨ pieces = kept ++ [[]]) := by
  have noSlash := fun segment segmentMem => (isNames segment segmentMem).slash_not_mem
  cases written with
  | plain nonempty => exact ⟨kept, nonempty, noSlash, rfl, .inl rfl⟩
  | slash =>
      refine ⟨kept ++ [[]], by simp, ?_, by rw [slashed_append]; rfl, .inr rfl⟩
      simpa [or_imp, forall_and] using noSlash

theorem names_eq (written : IsWritten kept characters) : names characters = kept := by
  have all : kept.filter (fun piece => !piece.isEmpty) = kept := by
    simpa using fun segment segmentMem => (isNames segment segmentMem).ne_nil
  rcases written.exists_pieces isNames with ⟨pieces, -, noSlash, rfl, ends⟩
  rw [names, splitOn_slashed noSlash]
  rcases ends with rfl | rfl <;> simp [all]

theorem withoutFinalSlash_eq (written : IsWritten kept characters) :
    withoutFinalSlash characters = rooted kept := by
  cases written with
  | plain nonempty => exact withoutFinalSlash_slashed isNames nonempty
  | slash => exact withoutFinalSlash_slashed_slash kept

theorem resolve_eq (written : IsWritten kept characters) :
    resolve (characters.splitOn '/') = kept := by
  have stays : resolved '.' kept = kept := resolved_of_isName isNames
  rcases written.exists_pieces isNames with ⟨pieces, -, noSlash, rfl, ends⟩
  rw [splitOn_slashed noSlash, resolve_eq_resolved]
  change resolved '.' pieces = kept
  rcases ends with rfl | rfl
  · exact stays
  · rw [resolved_concat, stays, keep, if_pos (.inl rfl)]

/-- Normalization writes what is written already as it stands. -/
theorem normalizeChars_eq_self (written : IsWritten kept characters) :
    normalizeChars characters = characters := by
  rw [normalizeChars_eq, written.resolve_eq isNames]
  cases written with
  | plain nonempty =>
      have noSlash := getLast?_rooted isNames nonempty
      rw [rooted_eq_slashed nonempty] at noSlash
      rw [if_neg (not_or.mpr ⟨nonempty, noSlash⟩), List.append_nil]
  | slash => rw [if_pos (.inr (by simp))]

theorem isCanonical (written : IsWritten kept characters) : IsCanonical characters := by
  rcases written.exists_pieces isNames with ⟨pieces, nonempty, noSlash, rfl, ends⟩
  refine ⟨['/'].intercalate pieces, (rooted_eq_slashed nonempty).symm, ?_⟩
  rw [List.splitOn_intercalate '/' noSlash nonempty]
  intro before piece after cut
  rcases ends with rfl | rfl
  · exact .inl (isNames piece (by simp [cut]))
  · -- Only with nothing behind it can the piece be the one that the last slash leaves.
    rcases after.eq_nil_or_concat with rfl | ⟨front, last, rfl⟩
    · exact .inr ⟨(List.singleton_inj.mp (List.append_inj' cut rfl).2).symm, rfl⟩
    · rw [List.concat_eq_append, ← List.cons_append, ← List.append_assoc] at cut
      exact .inl (isNames piece (by simp [(List.append_inj' cut rfl).1]))

end IsWritten

theorem IsCanonical.exists_isWritten (canonical : IsCanonical characters) :
    ∃ kept, (∀ segment ∈ kept, IsName segment) ∧ IsWritten kept characters := by
  rcases canonical with ⟨behind, rfl, isPiece⟩
  have nonempty : behind.splitOn '/' ≠ [] := List.splitOn_ne_nil _ _
  have whole : '/' :: behind = slashed (behind.splitOn '/') := by
    rw [← rooted_eq_slashed nonempty, rooted, List.intercalate_splitOn]
  rw [whole]
  generalize behind.splitOn '/' = pieces at isPiece nonempty
  rcases pieces.eq_nil_or_concat with rfl | ⟨front, last, rfl⟩
  · exact absurd rfl nonempty
  · rw [List.concat_eq_append] at isPiece nonempty ⊢
    have isNames : ∀ segment ∈ front, IsName segment := by
      intro segment segmentMem
      rcases List.append_of_mem segmentMem with ⟨before, after, rfl⟩
      rcases isPiece before segment (after ++ [last]) (by simp) with name | ⟨-, none⟩
      · exact name
      · simp at none
    rcases isPiece front last [] rfl with name | ⟨rfl, -⟩
    · refine ⟨front ++ [last], ?_, .plain nonempty⟩
      simpa [or_imp, forall_and] using ⟨isNames, name⟩
    · refine ⟨front, isNames, ?_⟩
      rw [slashed_append]
      exact .slash

/-- Canonical are exactly the texts that cleaning leaves as they are. -/
theorem isCanonical_iff_normalizeChars_eq :
    IsCanonical characters ↔ normalizeChars characters = characters := by
  constructor
  · intro canonical
    rcases canonical.exists_isWritten with ⟨kept, isNames, written⟩
    exact written.normalizeChars_eq_self isNames
  · intro same
    rw [← same]
    exact (isWritten_normalizeChars characters).isCanonical (isName_of_mem_resolve characters)

theorem isCanonical_normalize (path : String) : IsCanonical (normalize path).toList := by
  rw [normalize, String.toList_ofList]
  exact (isWritten_normalizeChars _).isCanonical (isName_of_mem_resolve _)

theorem names_normalize (path : String) : names (normalize path).toList = segments path := by
  rw [normalize, String.toList_ofList]
  exact (isWritten_normalizeChars _).names_eq (isName_of_mem_resolve _)

/-- Canonical paths agree exactly if they have the same names. -/
theorem agree_iff_of_isCanonical {first second : String} (canonical : IsCanonical first.toList)
    (also : IsCanonical second.toList) :
    agree first second ↔ names first.toList = names second.toList := by
  rcases canonical.exists_isWritten with ⟨kept, isNames, written⟩
  rcases also.exists_isWritten with ⟨own, areNames, ownWritten⟩
  rw [agree, beq_iff_eq, written.withoutFinalSlash_eq isNames,
    ownWritten.withoutFinalSlash_eq areNames, written.names_eq isNames,
    ownWritten.names_eq areNames]
  exact ⟨rooted_injective isNames areNames, congrArg rooted⟩

theorem getLast?_withRoot :
    (withRoot characters).getLast? = some '/' ↔
      characters = [] ∨ characters.getLast? = some '/' := by
  unfold withRoot
  split
  case isTrue starts =>
    have nonempty : characters ≠ [] := by
      rintro rfl
      cases starts
    simp [nonempty]
  case isFalse =>
    cases characters with
    | nil => simp
    | cons first rest => simp

theorem getLast?_normalizeChars :
    (normalizeChars characters).getLast? = some '/' ↔
      normalizeChars characters = ['/'] ∨ (withRoot characters).getLast? = some '/' := by
  have isNames := isName_of_mem_resolve characters
  have whole := normalizeChars_eq characters
  rw [getLast?_withRoot, whole]
  by_cases none : resolve (characters.splitOn '/') = []
  · rw [none]
    simp [slashed]
  · by_cases slash : characters.getLast? = some '/'
    · simp [slash]
    · have notRoot := rooted_ne_root isNames none
      have noSlash := getLast?_rooted isNames none
      have notEmpty : characters ≠ [] := by
        rintro rfl
        exact none rfl
      rw [rooted_eq_slashed none] at notRoot noSlash
      simp [none, slash, notRoot, noSlash, notEmpty]

/-- What normalization promises of a path. -/
structure YieldsCanonical (path : String) : Prop where
  canonical : IsCanonical (normalize path).toList
  /-- A slash at the end is the root, or stood at the end of the decoded text. -/
  slash : (normalize path).toList.getLast? = some '/' ↔
    normalize path = "/" ∨ (withRoot (decoded path).toList).getLast? = some '/'
  /-- A result without escapes is normalized to itself. -/
  settled : decoded (normalize path) = normalize path →
    normalize (normalize path) = normalize path
  /-- The segments of the result are the resolved ones. -/
  named : names (normalize path).toList = segments path
  /-- Two results agree exactly if they have the same segments. -/
  agrees : ∀ other, agree (normalize path) (normalize other) ↔
    names (normalize path).toList = names (normalize other).toList

theorem normalize_yieldsCanonical (path : String) : YieldsCanonical path where
  canonical := isCanonical_normalize path
  slash := by
    have root : normalize path = "/" ↔ normalizeChars (decoded path).toList = ['/'] := by
      rw [← String.toList_inj, normalize, String.toList_ofList]
      rfl
    rw [root, normalize, String.toList_ofList]
    exact getLast?_normalizeChars
  settled := by
    intro plain
    rw [normalize, plain, isCanonical_iff_normalizeChars_eq.mp (isCanonical_normalize path),
      String.ofList_toList]
  named := names_normalize path
  agrees other :=
    agree_iff_of_isCanonical (isCanonical_normalize path) (isCanonical_normalize other)

/-- Escapes that were escaped themselves come to the fore one layer at a time. -/
example : normalize "/a/%252e%252e" = "/a/%2e%2e" ∧ normalize "/a/%2e%2e" = "/" := by
  decide +kernel

end Gatehouse.RequestPath
