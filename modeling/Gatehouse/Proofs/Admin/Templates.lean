import Gatehouse.Admin.BasePath
import Mathlib.Data.List.Basic

/-!
# Base paths that stand for themselves

The router reads a base path as a template, and this file says which base paths it takes as the
text that they are.  They are the plain ones: no segment starts with a colon or an asterisk, and
there is no brace (`template?_eq_literals_iff`).  Under a plain base path an endpoint is found at
one path alone, the base path with the path of the endpoint behind it.

A base path that is not plain is no template at all, or its template stands for something else.  A
brace costs at least one piece, since a name in braces is a single piece and so is a brace that is
written twice; so the pieces are fewer than the characters.
-/

namespace Gatehouse.Admin.BasePath

variable {characters path rest : List Char} {state : ReadState}
  {pieces : List TemplatePiece} {basePath : String} {endpoint : Endpoint}

/-- A segment starts with a character that no segment of a template starts with. -/
def HoldsReserved (characters : List Char) : Prop :=
  ∃ segment ∈ characters.splitOn '/', segment.head? = some ':' ∨ segment.head? = some '*'

/-- The text holds nothing that a template does not take as it is. -/
structure IsPlain (characters : List Char) : Prop where
  unreserved : ¬HoldsReserved characters
  opening_not_mem : '\x7b' ∉ characters
  closing_not_mem : '\x7d' ∉ characters

/-- The pieces that stand for the characters one by one. -/
def literals (characters : List Char) : List TemplatePiece :=
  characters.map .literal

theorem holdsReserved_iff :
    HoldsReserved characters ↔ (characters.splitOn '/').any isReserved := by
  simp [HoldsReserved, isReserved]

theorem isPlain_nil : IsPlain [] := by
  refine ⟨?_, by simp, by simp⟩
  simp [HoldsReserved]

theorem isPlain_append_cons {front behind : List Char} :
    IsPlain (front ++ '/' :: behind) ↔ IsPlain front ∧ IsPlain behind := by
  have reserved : HoldsReserved (front ++ '/' :: behind) ↔
      HoldsReserved front ∨ HoldsReserved behind := by
    simp only [HoldsReserved, List.splitOn_append_cons_self, List.mem_append, or_and_right,
      exists_or]
  constructor
  · rintro ⟨unreserved, opening, closing⟩
    rw [reserved, not_or] at unreserved
    rw [List.mem_append, not_or, List.mem_cons, not_or] at opening closing
    exact ⟨⟨unreserved.1, opening.1, closing.1⟩, ⟨unreserved.2, opening.2.2, closing.2.2⟩⟩
  · rintro ⟨⟨unreserved, opening, closing⟩, ⟨unreserved', opening', closing'⟩⟩
    refine ⟨?_, ?_, ?_⟩
    · rw [reserved, not_or]
      exact ⟨unreserved, unreserved'⟩
    · simp [opening, opening']
    · simp [closing, closing']

theorem isPlain_append_slashes {slashes : List Char} (areSlashes : ∀ slash ∈ slashes, slash = '/') :
    IsPlain (characters ++ slashes) ↔ IsPlain characters := by
  induction slashes generalizing characters with
  | nil => simp
  | cons slash rest ih =>
      rw [List.forall_mem_cons] at areSlashes
      have others : IsPlain ([] ++ rest) ↔ IsPlain [] := ih areSlashes.2
      rw [List.nil_append] at others
      rw [areSlashes.1, isPlain_append_cons, others]
      simp [isPlain_nil]

theorem readFrom_cons_eq_some_iff {mark : TemplateMark} {marks : List TemplateMark} :
    readFrom state (mark :: marks) = some pieces ↔
      ∃ next piece others, step state mark = some (next, piece) ∧
        readFrom next marks = some others ∧ pieces = piece.toList ++ others := by
  rw [readFrom]
  · simp only [bind, Option.bind_eq_some_iff, pure, Option.some.injEq, Prod.exists]
    grind

theorem length_marks_le (characters : List Char) :
    (marks characters).length ≤ characters.length := by
  fun_induction marks characters with
  | case1 rest ih => simp; omega
  | case2 rest ih => simp; omega
  | case3 character rest _ _ ih => simpa using ih
  | case4 => simp

/-- Every character is good for one piece at most. -/
theorem length_le_of_readFrom (read : readFrom state (marks characters) = some pieces) :
    pieces.length ≤ characters.length := by
  apply Nat.le_trans _ (length_marks_le characters)
  generalize marks characters = marks at read
  induction marks generalizing state pieces with
  | nil =>
      have none : pieces = [] := by
        cases state <;> simp_all [readFrom]
      simp [none]
  | cons mark rest ih =>
      rcases readFrom_cons_eq_some_iff.mp read with ⟨next, piece, others, -, onward, rfl⟩
      have shorter := ih onward
      cases piece <;> simp <;> omega

theorem readFrom_of_plain (opening : '\x7b' ∉ characters) (closing : '\x7d' ∉ characters) :
    readFrom .plain (marks characters) = some (literals characters) := by
  fun_induction marks characters with
  | case1 rest ih => simp at opening
  | case2 rest ih => simp at closing
  | case3 character rest _ _ ih =>
      rw [List.mem_cons, not_or] at opening closing
      refine readFrom_cons_eq_some_iff.mpr ⟨.plain, some (.literal character), literals rest,
        ?_, ih opening.2 closing.2, rfl⟩
      simp [step, Ne.symm opening.1, Ne.symm closing.1]
  | case4 => rfl

/-- Where every piece is a character, no brace was read. -/
theorem plain_of_readFrom (read : readFrom .plain (marks characters) = some (literals characters)) :
    '\x7b' ∉ characters ∧ '\x7d' ∉ characters := by
  have short : ∀ {state : ReadState} {first : TemplatePiece} {rest : List Char},
      readFrom state (marks rest) ≠ some (first :: literals rest) := by
    intro state first rest read
    have bound := length_le_of_readFrom read
    simp only [literals, List.length_cons, List.length_map] at bound
    omega
  fun_induction marks characters with
  | case1 rest ih | case2 rest ih =>
      -- A brace that is written twice is one piece, and what is left is too short for the others.
      exfalso
      rcases readFrom_cons_eq_some_iff.mp read with ⟨next, piece, others, moved, onward, whole⟩
      simp only [step, Prod.mk.injEq, reduceCtorEq, and_false, if_false, Option.some.injEq] at moved
      rcases moved with ⟨rfl, rfl⟩
      simp only [literals, List.map_cons, Option.toList_some, List.singleton_append,
        List.cons.injEq, true_and] at whole
      subst whole
      exact short onward
  | case3 character rest _ _ ih =>
      rcases readFrom_cons_eq_some_iff.mp read with ⟨next, piece, others, moved, onward, whole⟩
      by_cases opens : character = '\x7b'
      · subst opens
        cases moved
        subst whole
        exact absurd onward short
      · by_cases closes : character = '\x7d'
        · subst closes
          cases moved
        · simp only [step, Prod.mk.injEq, opens, closes, false_and, if_false,
            Option.some.injEq] at moved
          rcases moved with ⟨rfl, rfl⟩
          simp only [literals, List.map_cons, Option.toList_some, List.singleton_append,
            List.cons.injEq, true_and] at whole
          subst whole
          have plain := ih onward
          simp [plain, Ne.symm opens, Ne.symm closes]
  | case4 => simp

/-- The router takes a base path as the text that it is exactly if it is plain. -/
theorem template?_eq_literals_iff :
    template? basePath = some (literals basePath.toList) ↔ IsPlain basePath.toList := by
  rw [template?]
  constructor
  · intro taken
    split at taken
    case isTrue => cases taken
    case isFalse free =>
      rcases plain_of_readFrom taken with ⟨opening, closing⟩
      exact ⟨fun reserved => free (holdsReserved_iff.mp reserved), opening, closing⟩
  · rintro ⟨unreserved, opening, closing⟩
    rw [if_neg (fun any => unreserved (holdsReserved_iff.mpr any))]
    exact readFrom_of_plain opening closing

theorem not_isServable_of_holdsReserved (reserved : HoldsReserved basePath.toList) :
    ¬isServable basePath := by
  rw [isServable, template?, if_pos (holdsReserved_iff.mp reserved)]
  simp

theorem rest?_literals_eq_some_iff :
    rest? (literals characters) path = some rest ↔ path = characters ++ rest := by
  induction characters generalizing path with
  | nil => simp [literals, rest?]
  | cons character others ih =>
      rw [literals] at ih ⊢
      cases path with
      | nil => simp [rest?]
      | cons first path =>
          rw [List.map_cons, rest?, List.cons_append, List.cons.injEq, ← ih]
          simp

theorem find?_path_eq_some_iff :
    Endpoint.all.find? (fun endpoint => endpoint.path.toList = rest) = some endpoint ↔
      endpoint.path.toList = rest := by
  constructor
  · intro found
    simpa using List.find?_some found
  · rintro rfl
    cases endpoint <;> decide

/-- Under a plain base path an endpoint stands behind the text of the base path alone. -/
theorem endpoint?_eq_some_iff (plain : IsPlain basePath.toList) {path : String} :
    endpoint? basePath path = some endpoint ↔ path = basePath ++ endpoint.path := by
  have whole : path = basePath ++ endpoint.path ↔
      path.toList = basePath.toList ++ endpoint.path.toList := by
    rw [← String.toList_inj, String.toList_append]
  rw [endpoint?, template?_eq_literals_iff.mpr plain, whole]
  simp only [bind, Option.bind_some, Option.bind_eq_some_iff, rest?_literals_eq_some_iff,
    find?_path_eq_some_iff]
  grind

end Gatehouse.Admin.BasePath
