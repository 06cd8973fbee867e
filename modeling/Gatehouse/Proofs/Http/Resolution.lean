import Gatehouse.Proofs.Http.Escaping
import Gatehouse.Proofs.Path.Segments
import Mathlib.Data.List.Forall2

/-!
# What a client does to the segments of a path

A client resolves `.` and `..` before it asks for a path, and the gate resolves
them after decoding.  Both go through the written segments one by one, the client
with a stack of escaped segments and the gate with the segments of the decoded
text.  They stay together as long as `..` takes the same along on both sides: for
the client one written segment, for the gate the last segment of the text.  These
differ where a written segment is empty or hides a slash in an escape.
-/

namespace Gatehouse.Http.Url

open Text Percent
open RequestPath (keep resolved)

variable {stack coming written texts kept : List (List Char)} {segment text body : List Char}

theorem standsFor_intercalate (stands : List.Forall₂ StandsFor written texts) :
    StandsFor (['/'].intercalate written) (['/'].intercalate texts) := by
  induction stands with
  | nil => exact standsFor_nil
  | @cons segment text written texts head tail ih =>
      cases tail with
      | nil =>
          rw [List.intercalate_singleton, List.intercalate_singleton]
          exact head
      | cons next rest =>
          rw [List.intercalate_cons_cons, List.intercalate_cons_cons, List.append_assoc,
            List.append_assoc]
          exact standsFor_append_cons_iff.mpr ⟨_, _, rfl, head, ih⟩

theorem exists_of_standsFor_intercalate (nonempty : written ≠ [])
    (stands : StandsFor (['/'].intercalate written) text) :
    ∃ texts, List.Forall₂ StandsFor written texts ∧ text = ['/'].intercalate texts := by
  induction written generalizing text with
  | nil => exact absurd rfl nonempty
  | cons segment written ih =>
      cases written with
      | nil =>
          rw [List.intercalate_singleton] at stands
          exact ⟨[text], .cons stands .nil, List.intercalate_singleton.symm⟩
      | cons next rest =>
          rw [List.intercalate_cons_cons, List.append_assoc] at stands
          rcases standsFor_append_cons_iff.mp stands with ⟨front, back, rfl, head, tail⟩
          rcases ih (by simp) tail with ⟨texts, pieces, rfl⟩
          refine ⟨front :: texts, .cons head pieces, ?_⟩
          cases pieces
          rw [List.intercalate_cons_cons, List.append_assoc]
          rfl

/-- The kept segments after those of a text. -/
def descend (kept : List (List Char)) (text : List Char) : List (List Char) :=
  (text.splitOn '/').foldl (keep '.') kept

theorem foldl_keep_splitOn_intercalate (kept texts : List (List Char)) :
    ((['/'].intercalate texts).splitOn '/').foldl (keep '.') kept = texts.foldl descend kept := by
  induction texts generalizing kept with
  | nil => rfl
  | cons text texts ih =>
      cases texts with
      | nil =>
          rw [List.intercalate_singleton]
          rfl
      | cons next rest =>
          rw [List.intercalate_cons_cons, List.append_assoc, List.singleton_append,
            List.splitOn_append_cons_self, List.foldl_append, ih]
          rfl

/-- The segments of a path are those of the pieces that it stands for. -/
theorem segments_eq_foldl_descend {path : String}
    (rooted : path.toList = '/' :: ['/'].intercalate written)
    (stands : List.Forall₂ StandsFor written texts) :
    RequestPath.segments path = texts.foldl descend [] := by
  have whole : StandsFor path.toList
      (String.ofList ('/' :: ['/'].intercalate texts)).toList := by
    rw [rooted, String.toList_ofList]
    exact @standsFor_append_cons_iff _ [] _ |>.mpr
      ⟨[], _, rfl, standsFor_nil, standsFor_intercalate stands⟩
  rw [RequestPath.segments, RequestPath.decoded_of_standsFor whole, String.toList_ofList,
    RequestPath.resolve_eq_resolved, resolved, ← List.nil_append ('/' :: _),
    List.splitOn_append_cons_self, List.foldl_append, foldl_keep_splitOn_intercalate]
  rfl

/-- Whenever `..` takes a segment along, that one is not empty and hides no slash. -/
def ClimbsPlainly (stack : List (List Char)) : List (List Char) → Prop
  | [] => True
  | segment :: coming =>
      (isAbove segment → ∀ top ∈ stack.head?, top ≠ [] ∧ 0x2F ∉ decodeBytes (bytesOfChars top)) ∧
        ClimbsPlainly (enter stack segment) coming

instance decidableClimbsPlainly (stack : List (List Char)) :
    (coming : List (List Char)) → Decidable (ClimbsPlainly stack coming)
  | [] => isTrue trivial
  | segment :: coming =>
      have := decidableClimbsPlainly (enter stack segment) coming
      inferInstanceAs (Decidable (_ ∧ _))

/-- The client's stack and the gate's segments come from the same texts. -/
inductive Matches : List (List Char) → List (List Char) → Prop
  | root : Matches [] []
  | push {stack kept : List (List Char)} {segment text : List Char}
      (below : Matches stack kept) (stands : StandsFor segment text)
      (notHere : text ≠ ['.']) (notAbove : text ≠ ['.', '.']) :
      Matches (segment :: stack) (descend kept text)

theorem descend_nil (kept : List (List Char)) : descend kept [] = kept := rfl

theorem descend_here (kept : List (List Char)) : descend kept ['.'] = kept := rfl

theorem descend_above (kept : List (List Char)) : descend kept ['.', '.'] = kept.dropLast := rfl

theorem descend_of_not_mem (notEmpty : text ≠ []) (notHere : text ≠ ['.'])
    (notAbove : text ≠ ['.', '.']) (noSlash : '/' ∉ text) : descend kept text = kept ++ [text] := by
  rw [descend, List.splitOn_eq_singleton noSlash]
  simp [keep, notEmpty, notHere, notAbove]

theorem not_mem_of_standsFor (stands : StandsFor segment text)
    (noSlash : 0x2F ∉ decodeBytes (bytesOfChars segment)) : '/' ∉ text := by
  intro slashMem
  rw [stands] at noSlash
  have slash : bytesOfChars ['/'] = [0x2F] := by decide
  apply noSlash
  rw [bytesOfChars, List.mem_flatMap]
  exact ⟨'/', slashMem, by decide⟩

theorem Matches.tail (together : Matches stack kept)
    (plain : ∀ top ∈ stack.head?, top ≠ [] ∧ 0x2F ∉ decodeBytes (bytesOfChars top)) :
    Matches stack.tail kept.dropLast := by
  cases together with
  | root => exact .root
  | @push stack kept segment text below stands notHere notAbove =>
      -- The top is one segment for the gate as well, so both drop the same.
      rcases plain segment rfl with ⟨notEmpty, noSlash⟩
      have textNotEmpty : text ≠ [] := by
        rintro rfl
        exact notEmpty stands.eq_nil
      have textNoSlash := not_mem_of_standsFor stands noSlash
      rw [descend_of_not_mem textNotEmpty notHere notAbove textNoSlash, List.dropLast_concat]
      exact below

theorem Matches.enter (together : Matches stack kept) (stands : StandsFor segment text)
    (plain : isAbove segment →
      ∀ top ∈ stack.head?, top ≠ [] ∧ 0x2F ∉ decodeBytes (bytesOfChars top)) :
    Matches (enter stack segment) (descend kept text) := by
  unfold Url.enter
  split
  case isTrue above =>
    have dots := stands.unique (isAbove_iff_standsFor.mp above)
    rw [dots, descend_above]
    exact together.tail (plain above)
  case isFalse notAbove =>
    split
    case isTrue here =>
      have dot := stands.unique (isHere_iff_standsFor.mp here)
      rw [dot, descend_here]
      exact together
    case isFalse notHere =>
      apply Matches.push together (standsFor_flatMap_escapeChar_iff.mpr stands)
      · rintro rfl
        exact notHere (isHere_iff_standsFor.mpr stands)
      · rintro rfl
        exact notAbove (isAbove_iff_standsFor.mpr stands)

theorem finish_eq (stack : List (List Char)) (segment : List Char) :
    finish stack segment = enter stack segment ∨
      finish stack segment = [] :: enter stack segment := by
  unfold finish enter
  split
  · exact .inr rfl
  · split
    · exact .inr rfl
    · exact .inl rfl

theorem Matches.resolveFrom (together : Matches stack kept)
    (stands : List.Forall₂ StandsFor coming texts) (plain : ClimbsPlainly stack coming) :
    Matches (resolveFrom stack coming) (texts.foldl descend kept) := by
  induction stands generalizing stack kept with
  | nil => exact together
  | @cons segment text coming texts head tail ih =>
      have entered := together.enter head plain.1
      cases tail with
      | nil =>
          rcases finish_eq stack segment with same | same
          · rw [Url.resolveFrom, same]
            exact entered
          · have pushed := Matches.push entered standsFor_nil (by simp) (by simp)
            rw [descend_nil] at pushed
            rw [Url.resolveFrom, same]
            exact pushed
      | cons next rest => exact ih entered plain.2

/-- What is on the stack stands for texts with the segments of the gate. -/
theorem Matches.exists_texts (together : Matches stack kept) :
    ∃ texts, List.Forall₂ StandsFor stack.reverse texts ∧ texts.foldl descend [] = kept := by
  induction together with
  | root => exact ⟨[], .nil, rfl⟩
  | @push stack kept segment text below stands notHere notAbove ih =>
      rcases ih with ⟨texts, pieces, rfl⟩
      refine ⟨texts ++ [text], ?_, by simp⟩
      rw [List.reverse_cons]
      exact List.rel_append pieces (.cons stands .nil)

/-- The segments behind the slash that starts a path. -/
def writtenSegments (path : String) : List (List Char) :=
  path.toList.tail.splitOn '/'

theorem splitOnP_isSeparator (noBackslash : '\\' ∉ body) :
    body.splitOnP isSeparator = body.splitOn '/' := by
  rw [List.splitOn_eq_splitOnP]
  induction body with
  | nil => rfl
  | cons character rest ih =>
      rw [List.mem_cons, not_or] at noBackslash
      have same : isSeparator character = (character == '/') := by
        simp [isSeparator, Ne.symm noBackslash.1, beq_eq_decide]
      rw [List.splitOnP_cons_eq_if_modifyHead, List.splitOnP_cons_eq_if_modifyHead,
        ih noBackslash.2, same]

variable {path : String}

theorem resolvePath_eq (rooted : path.toList.head? = some '/')
    (noBackslash : '\\' ∉ path.toList) :
    resolvePath path.toList = (resolveFrom [] (writtenSegments path)).reverse := by
  rcases List.head?_eq_some_iff.mp rooted with ⟨body, written⟩
  rw [written, List.mem_cons, not_or] at noBackslash
  rw [writtenSegments, written, List.tail_cons, ← splitOnP_isSeparator noBackslash.2]
  rfl

/-- The client and the gate resolve a path alike. -/
theorem segments_path {url : Url} (rooted : path.toList.head? = some '/')
    (noBackslash : '\\' ∉ path.toList) (readable : (Percent.decode? path).isSome)
    (plain : ClimbsPlainly [] (writtenSegments path))
    (resolved : url.segments = resolvePath path.toList) :
    RequestPath.segments url.path = RequestPath.segments path := by
  rcases List.head?_eq_some_iff.mp rooted with ⟨body, written⟩
  have joined : path.toList = '/' :: ['/'].intercalate (writtenSegments path) := by
    rw [writtenSegments, List.intercalate_splitOn, written]
    rfl
  rcases Option.isSome_iff_exists.mp readable with ⟨content, read⟩
  have stands := Percent.decode?_eq_some_iff.mp read
  rw [joined] at stands
  rcases (@standsFor_append_cons_iff _ [] _).mp stands with ⟨-, back, -, -, tail⟩
  have nonempty : writtenSegments path ≠ [] := List.splitOn_ne_nil _ _
  rcases exists_of_standsFor_intercalate nonempty tail with ⟨texts, pieces, -⟩
  have together := Matches.root.resolveFrom pieces plain
  rcases together.exists_texts with ⟨asked, askedPieces, sameSegments⟩
  rw [← resolvePath_eq rooted noBackslash, ← resolved] at askedPieces
  have askedPath : url.path.toList = '/' :: ['/'].intercalate url.segments := by
    rw [Url.path, String.toList_ofList]
  rw [segments_eq_foldl_descend askedPath askedPieces, sameSegments,
    segments_eq_foldl_descend joined pieces]

/-- No segment means its own directory or the one above. -/
def IsDotFree (written : List (List Char)) : Prop :=
  ∀ segment ∈ written, ¬isHere segment ∧ ¬isAbove segment

instance (written : List (List Char)) : Decidable (IsDotFree written) :=
  inferInstanceAs (Decidable (∀ segment ∈ written, _))

/-- Without dots every segment is only escaped. -/
theorem resolveFrom_of_isDotFree (dotFree : IsDotFree coming) (stack : List (List Char)) :
    resolveFrom stack coming =
      (coming.map fun segment => segment.flatMap (escapeChar escapedInPath)).reverse ++ stack := by
  induction coming generalizing stack with
  | nil => rfl
  | cons segment coming ih =>
      rcases dotFree segment List.mem_cons_self with ⟨notHere, notAbove⟩
      cases coming with
      | nil =>
          rw [resolveFrom, finish, if_neg notAbove, if_neg notHere]
          rfl
      | cons next rest =>
          have later := ih (fun other otherMem => dotFree other (List.mem_cons_of_mem _ otherMem))
          change resolveFrom (enter stack segment) (next :: rest) = _
          rw [later, enter, if_neg notAbove, if_neg notHere]
          simp

/-- What is asked for is then the path with some characters escaped. -/
theorem toList_path_of_isDotFree {url : Url} (rooted : path.toList.head? = some '/')
    (noBackslash : '\\' ∉ path.toList) (dotFree : IsDotFree (writtenSegments path))
    (resolved : url.segments = resolvePath path.toList) :
    url.path.toList = path.toList.flatMap (escapeChar escapedInPath) := by
  rcases List.head?_eq_some_iff.mp rooted with ⟨body, written⟩
  have kept : escapeChar escapedInPath '/' = ['/'] := escapeChar_of_kept (by decide)
  have escaped := flatMap_intercalate (escapeChar escapedInPath) ['/'] (writtenSegments path)
  rw [List.flatMap_singleton, kept, writtenSegments, List.intercalate_splitOn] at escaped
  rw [Url.path, String.toList_ofList, resolved, resolvePath_eq rooted noBackslash,
    resolveFrom_of_isDotFree dotFree, List.append_nil, List.reverse_reverse, writtenSegments,
    ← escaped, written, List.flatMap_cons, kept]
  rfl

end Gatehouse.Http.Url
