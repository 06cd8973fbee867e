import Gatehouse.Disk.Replace
import Gatehouse.Proofs.Disk.Following
import Gatehouse.Proofs.Text.Numerals
import Gatehouse.Proofs.Text.Utf8Bytes

/-!
# Where a backup is named

A backup is named by a change of the text of the path: the last part is replaced, and pieces in
front of it that mean nothing are dropped.  This file shows that the parts of the new path are
those of the old one, up to dots and the new name, so that the backup is looked up in the directory
of the file.
-/

namespace Gatehouse.Disk

namespace Path

variable {path : Path} {list : List String} {name : String}

/-- No piece holds the slash that pieces are cut at. -/
def IsCut (list : List String) : Prop :=
  ∀ piece ∈ list, '/' ∉ piece.toList

theorem isCut_pieces (path : Path) : IsCut path.pieces := by
  intro piece pieceMem
  rcases List.mem_map.mp pieceMem with ⟨characters, charactersMem, rfl⟩
  rw [String.toList_ofList]
  exact Text.not_mem_of_mem_splitOn charactersMem

theorem pieces_ne_nil (path : Path) : path.pieces ≠ [] := by
  simp [pieces, Text.split, List.splitOn_ne_nil]

theorem map_toList_pieces (path : Path) :
    path.pieces.map String.toList = path.toList.splitOn '/' := by
  simp [pieces, Text.split, Function.comp_def]

theorem join_pieces (path : Path) : Text.join "/" path.pieces = path := by
  apply String.toList_injective
  rw [Text.toList_join, map_toList_pieces]
  exact List.intercalate_splitOn '/'

theorem pieces_join (isCut : IsCut list) (nonempty : list ≠ []) :
    pieces (Text.join "/" list) = list := by
  have whole : (Text.join "/" list).toList.splitOn '/' = list.map String.toList := by
    rw [Text.toList_join]
    apply List.splitOn_intercalate
    · simpa [IsCut] using isCut
    · simpa using nonempty
  simp [pieces, Text.split, whole, Function.comp_def]

theorem join_concat (nonempty : list ≠ []) :
    Text.join "/" (list ++ [name]) = Text.join "/" list ++ "/" ++ name := by
  apply String.toList_injective
  induction list with
  | nil => exact absurd rfl nonempty
  | cons first rest ih =>
      cases rest with
      | nil => simp [Text.toList_join, List.intercalate_cons_cons]
      | cons next rest =>
          have behind := ih (List.cons_ne_nil _ _)
          simp only [Text.toList_join, List.map_cons, List.cons_append, List.map_append,
            List.map_nil, List.intercalate_cons_cons, String.toList_append] at behind ⊢
          rw [behind]
          simp

theorem endsWith_slash_iff :
    Text.endsWith path "/" ↔ ∃ front, front ≠ [] ∧ path.pieces = front ++ [""] := by
  constructor
  · intro ends
    rcases List.isSuffixOf_iff_suffix.mp ends with ⟨before, whole⟩
    refine ⟨(before.splitOn '/').map .ofList, by simp [List.splitOn_ne_nil], ?_⟩
    have cut : path.toList.splitOn '/' = before.splitOn '/' ++ [[]] := by
      rw [← whole]
      exact (List.splitOn_append_cons_self before []).trans (by rw [List.splitOn_nil])
    simp [pieces, Text.split, cut]
  · rintro ⟨front, nonempty, cut⟩
    apply List.isSuffixOf_iff_suffix.mpr
    rw [← join_pieces path, cut, join_concat nonempty]
    exact ⟨(Text.join "/" front).toList, by simp⟩

theorem isAbsolute_iff :
    path.isAbsolute ↔ ∃ rest, rest ≠ [] ∧ path.pieces = "" :: rest := by
  constructor
  · intro starts
    rcases List.isPrefixOf_iff_prefix.mp starts with ⟨behind, whole⟩
    refine ⟨(behind.splitOn '/').map .ofList, by simp [List.splitOn_ne_nil], ?_⟩
    have cut : path.toList.splitOn '/' = [] :: behind.splitOn '/' := by
      rw [← whole]
      exact List.splitOn_append_cons_self [] behind
    simp [pieces, Text.split, cut]
  · rintro ⟨rest, nonempty, cut⟩
    apply List.isPrefixOf_iff_prefix.mpr
    rw [← join_pieces path, cut, Text.toList_join]
    rcases List.exists_cons_of_ne_nil nonempty with ⟨next, others, rfl⟩
    exact ⟨"/".toList.intercalate ((next :: others).map String.toList), by
      simp [List.intercalate_cons_cons]⟩

/-- The piece means nothing, unless it is the first. -/
def IsIdle (piece : String) : Prop :=
  piece = "" ∨ piece = "."

/-- What is dropped means nothing; what is kept is a single piece or ends with one that means
something. -/
theorem exists_dropIdle (nonempty : list ≠ []) :
    ∃ idle last kept, list = idle ++ last :: kept ∧ dropIdle list = last :: kept ∧
      (∀ piece ∈ idle, IsIdle piece) ∧ (kept = [] ∨ ¬IsIdle last) := by
  fun_induction dropIdle list with
  | case1 => exact absurd rfl nonempty
  | case2 first => exact ⟨[], first, [], rfl, rfl, by simp, .inl rfl⟩
  | case3 first others more isIdle ih =>
      rcases ih more with ⟨idle, last, kept, whole, drops, idles, ends⟩
      refine ⟨first :: idle, last, kept, by rw [whole, List.cons_append], drops, ?_, ends⟩
      exact List.forall_mem_cons.mpr ⟨isIdle, idles⟩
  | case4 last others _ means => exact ⟨[], last, others, rfl, rfl, by simp, .inr means⟩

theorem pieces_child_ofReversed {last : String} {kept : List String}
    (isCut : IsCut (kept.reverse ++ [last] ++ [name])) (ends : kept = [] ∨ ¬IsIdle last) :
    pieces ((ofReversed (last :: kept)).child name) = kept.reverse ++ [last] ++ [name] := by
  have written := pieces_join isCut (by simp)
  by_cases root : last :: kept = [""]
  · cases root
    exact written
  · have text : ofReversed (last :: kept) = Text.join "/" (kept.reverse ++ [last]) := by
      unfold ofReversed
      split
      case h_1 same => exact absurd same root
      case h_2 => rw [List.reverse_cons]
    have cut : pieces (Text.join "/" (kept.reverse ++ [last])) = kept.reverse ++ [last] :=
      pieces_join (fun piece pieceMem => isCut piece (List.mem_append_left _ pieceMem)) (by simp)
    have named : Text.join "/" (kept.reverse ++ [last]) ≠ "" := by
      intro empty
      have blank : pieces "" = [""] := by decide +kernel
      rw [empty, blank] at cut
      have single : last :: kept = [""] := by
        simpa using congrArg List.reverse cut.symm
      exact root single
    have unended : ¬Text.endsWith (Text.join "/" (kept.reverse ++ [last])) "/" := by
      rw [endsWith_slash_iff, cut]
      rintro ⟨front, more, same⟩
      rcases List.append_inj' same rfl with ⟨rfl, blank⟩
      rcases ends with rfl | means
      · exact more rfl
      · exact means (.inl (List.singleton_inj.mp blank))
    rw [text, child, if_neg (not_or.mpr ⟨named, unended⟩), ← join_concat (by simp)]
    exact written

end Path

open Gatehouse.Disk.Path

variable {path : Path} {name : String} {others above : List String}

/-- The name of the backup of a file. -/
def backupName (name : String) (time : Timestamp) : String :=
  name ++ "." ++ time.compact ++ ".bak"

theorem slash_not_mem_padded (width value : Nat) : '/' ∉ (Text.padded width value).toList := by
  rw [Text.padded, String.toList_ofList, List.mem_append, not_or]
  refine ⟨fun within => absurd (List.eq_of_mem_replicate within) (by decide), fun within => ?_⟩
  exact absurd (Nat.isDigit_of_mem_toDigits (by decide) (by decide) within) (by decide)

theorem slash_not_mem_compact (time : Timestamp) : '/' ∉ time.compact.toList := by
  have year : '/' ∉ (Timestamp.yearText time.year).toList := by
    unfold Timestamp.yearText
    split
    · simp [slash_not_mem_padded]
    · split <;> simp [slash_not_mem_padded]
  simp [Timestamp.compact, year, slash_not_mem_padded]

theorem slash_not_mem_backupName (plain : '/' ∉ name.toList) (time : Timestamp) :
    '/' ∉ (backupName name time).toList := by
  simp [backupName, plain, slash_not_mem_compact]

/-- The backup has the pieces of the path in front of its name, but for some that mean nothing. -/
theorem exists_pieces_backupPath (cut : path.pieces = others ++ [name]) (named : name ≠ "")
    (notDot : name ≠ ".") (notUp : name ≠ "..") :
    ∃ front idle, others = front ++ idle ∧ (∀ piece ∈ idle, IsIdle piece) ∧
      (front = [] → others = []) ∧
      ∀ time, (backupPath path time).pieces = front ++ [backupName name time] := by
  have isCut := isCut_pieces path
  rw [cut] at isCut
  have plain : '/' ∉ name.toList := isCut name (by simp)
  have reversed : path.pieces.reverse = name :: others.reverse := by
    rw [cut, List.reverse_append, List.reverse_singleton, List.singleton_append]
  have meaningful : path.meaningful = name :: others.reverse := by
    rw [Path.meaningful, reversed]
    cases others.reverse with
    | nil => rfl
    | cons next rest => simp [dropIdle, named, notDot]
  have fileName : path.fileName? = some name := by
    simp [fileName?, meaningful, named, notDot, notUp]
  have written (time : Timestamp) : backupPath path time =
      ((path.parent?).getD "").child (backupName name time) := by
    simp [backupPath, withFileName, fileName, backupName]
  by_cases alone : others = []
  · -- A name alone has the empty path above it, and the backup is a name alone as well.
    refine ⟨[], [], by simp [alone], by simp, fun _ => alone, fun time => ?_⟩
    have parent : path.parent? = some "" := by
      simp [parent?, meaningful, alone, named]
    have text : backupPath path time = Text.join "/" [backupName name time] := by
      rw [written, parent]
      simp [child, Text.join]
    rw [text]
    exact pieces_join (by simpa [IsCut] using slash_not_mem_backupName plain time) (by simp)
  · -- The path above ends with the last piece that means something.
    rcases exists_dropIdle (by simpa using alone : others.reverse ≠ []) with
      ⟨idle, last, kept, whole, drops, idles, ends⟩
    have parent : path.parent? = some (ofReversed (last :: kept)) := by
      rw [← drops, parent?, meaningful]
      cases again : others.reverse with
      | nil => exact absurd (List.reverse_eq_nil_iff.mp again) alone
      | cons next rest => rfl
    have kept_eq : others = kept.reverse ++ [last] ++ idle.reverse := by
      simpa using congrArg List.reverse whole
    refine ⟨kept.reverse ++ [last], idle.reverse, kept_eq, by simpa using idles, by simp,
      fun time => ?_⟩
    rw [written, parent]
    apply pieces_child_ofReversed _ ends
    intro piece pieceMem
    rcases List.mem_append.mp pieceMem with before | here
    · apply isCut piece
      rw [kept_eq]
      simp only [List.mem_append] at before ⊢
      tauto
    · cases List.mem_singleton.mp here
      exact slash_not_mem_backupName plain time

namespace Volume

theorem exists_pieces_of_parts (cut : parts path = above ++ [name]) (isName : IsName name) :
    ∃ others, path.pieces = others ++ [name] ∧ name ≠ "" ∧
      above = others.filter fun piece => piece ≠ "" := by
  have unended : ¬Text.endsWith path "/" := by
    intro ends
    rw [parts, if_pos ends] at cut
    exact isName.notDot (List.singleton_inj.mp (List.append_inj' cut rfl).2).symm
  rw [parts, if_neg unended] at cut
  rcases path.pieces.eq_nil_or_concat with none | ⟨others, last, whole⟩
  · exact absurd none path.pieces_ne_nil
  · rw [List.concat_eq_append] at whole
    rw [whole, List.filter_append] at cut
    have ends : last ≠ "" := by
      rintro rfl
      have single : others = [] := by
        by_contra more
        exact unended (endsWith_slash_iff.mpr ⟨others, more, whole⟩)
      simp [single] at cut
    have kept : [last].filter (fun piece => piece ≠ "") = [last] := by
      simp [ends]
    rw [kept] at cut
    rcases List.append_inj' cut rfl with ⟨same, lasts⟩
    cases List.singleton_inj.mp lasts
    exact ⟨others, whole, ends, same.symm⟩

/-- The parts of the path of a backup are those of the path of the file, up to dots and the new
name, and both paths start at the same place. -/
theorem exists_parts_backupPath (cut : parts path = above ++ [name]) (isName : IsName name) :
    ∃ front dots, above = front ++ dots ∧ (∀ dot ∈ dots, dot = ".") ∧
      ∀ time, parts (backupPath path time) = front ++ [backupName name time] ∧
        (backupPath path time).isAbsolute = path.isAbsolute := by
  rcases exists_pieces_of_parts cut isName with ⟨others, whole, named, rfl⟩
  rcases exists_pieces_backupPath whole named isName.notDot isName.notUp with
    ⟨front, idle, rfl, idles, starts, pieces⟩
  refine ⟨front.filter fun piece => piece ≠ "", idle.filter fun piece => piece ≠ "",
    List.filter_append .., ?_, fun time => ⟨?_, ?_⟩⟩
  · intro dot dotMem
    rcases List.mem_filter.mp dotMem with ⟨dotMem, nonempty⟩
    rcases idles dot dotMem with rfl | rfl
    · simp at nonempty
    · rfl
  · have backup : backupName name time ≠ "" := by
      simp [backupName]
    have unended : ¬Text.endsWith (backupPath path time) "/" := by
      rw [endsWith_slash_iff, pieces]
      rintro ⟨_, -, same⟩
      exact backup (List.singleton_inj.mp (List.append_inj' same rfl).2)
    rw [parts, if_neg unended, pieces, List.filter_append]
    simp [backup]
  · rw [Bool.eq_iff_iff, isAbsolute_iff, isAbsolute_iff, pieces, whole]
    cases front with
    | nil => simp [starts rfl]
    | cons first rest => simp

end Volume

theorem backupName_ne (name : String) (time : Timestamp) : backupName name time ≠ name := by
  intro same
  have lengths := congrArg String.length same
  have longer : ".bak".length = 4 := rfl
  simp only [backupName, String.length_append] at lengths
  omega

theorem compact_of_backupName {time other : Timestamp}
    (same : backupName name time = backupName name other) : time.compact = other.compact := by
  simpa [backupName] using same

end Gatehouse.Disk
