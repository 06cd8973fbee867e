import Gatehouse.Proofs.Disk.Copies
import Gatehouse.Proofs.Disk.Walk

/-!
# Replacements of files

A replacement that fails at any stage leaves the volume as it was, apart from
the backup that was made before it and from a temporary file that could not be
taken away.  One that succeeds on a well-formed volume leaves the new content
where the path leads, provided the path could be read or led to nothing before.

The proviso is not idle.  Moving a file onto a path replaces a link at its end,
and the path may lead through that very link; such a path leads to a directory,
and reading it fails.
-/

namespace Gatehouse.Disk

theorem exists_of_bind_eq_ok {Fault First Result : Type} {first : Except Fault First}
    {next : First → Except Fault Result} {result : Result}
    (succeeded : first >>= next = .ok result) :
    ∃ value, first = .ok value ∧ next value = .ok result := by
  cases first with
  | error fault => cases succeeded
  | ok value => exact ⟨value, rfl, succeeded⟩

namespace Volume

variable {volume left staged filled between : Volume} {path : Path} {time : Timestamp}
  {content : ByteArray} {temporary location directory : Location} {error : Error} {step : Step}

theorem resolveDirectory_eq_ok_iff {above : List String} :
    volume.resolveDirectory path above = .ok directory ↔
      volume.follow true linkLimit (volume.origin path) (above ++ ["."]) =
        .ok (.found directory) := by
  unfold resolveDirectory
  rcases volume.follow true linkLimit (volume.origin path) (above ++ ["."]) with
      error | ⟨reached | reached⟩ <;>
    simp [bind, Except.bind, pure, Except.pure, throw, throwThe, MonadExceptOf.throw]

theorem resolveDirectory_iff_walk {above : List String} :
    volume.resolveDirectory path above = .ok directory ↔
      ∃ links, volume.Walk linkLimit (volume.origin path) above links directory := by
  constructor
  · intro leads
    exact Walk.exists_of_follow_dot (resolveDirectory_eq_ok_iff.mp leads)
  · rintro ⟨links, walk⟩
    rw [resolveDirectory_eq_ok_iff, walk.follow_append]
    simp

theorem resolveDirectory_root {above : List String} (origin : volume.origin path = [])
    (still : ∀ part ∈ above, part = ".") : volume.resolveDirectory path above = .ok [] := by
  rw [resolveDirectory_eq_ok_iff, origin]
  induction above with
  | nil => simp
  | cons part rest ih =>
      rw [List.forall_mem_cons] at still
      rw [still.1, List.cons_append, follow_stay, ih still.2]

/-- What a successful move onto a path has found and done. -/
inductive Moved (volume : Volume) (temporary : Location) (path : Path) : Volume → Prop
  | intro {above : List String} {name : String} {directory : Location} {entry : Entry}
      (checked : checkPath path = .ok ()) (cut : parts path = above ++ [name])
      (isName : IsName name)
      (leads : volume.follow true linkLimit (volume.origin path) (above ++ ["."]) =
        .ok (.found directory))
      (moves : volume.entry? temporary = some entry)
      (notDirectory : volume.entry? (directory ++ [name]) ≠ some .directory) :
      Moved volume temporary path ((volume.erase temporary).put (directory ++ [name]) entry)

theorem pieces_of_lastPart {above : List String} {name : String}
    (last : lastPart path = (above, some name)) :
    (path.pieces.filter fun piece => piece ≠ "") = above ++ [name] ∧ name ≠ "." ∧ name ≠ ".." := by
  unfold lastPart at last
  split at last
  · cases last
  · rename_i final others reversed
    split at last
    · cases last
    · rename_i isName
      cases last
      rw [not_or] at isName
      exact ⟨List.reverse_eq_cons_iff.mp reversed, isName⟩

theorem parts_eq_of_lastPart {above : List String} {name : String}
    (last : lastPart path = (above, some name)) :
    parts path = above ++ name :: if endsWithSlash path then ["."] else [] := by
  unfold parts endsWithSlash
  rw [(pieces_of_lastPart last).1]
  split <;> simp

theorem parts_of_lastPart {above : List String} {name : String}
    (last : lastPart path = (above, some name)) (noSlash : endsWithSlash path = false) :
    parts path = above ++ [name] ∧ name ≠ "." ∧ name ≠ ".." := by
  refine ⟨?_, (pieces_of_lastPart last).2⟩
  rw [parts_eq_of_lastPart last, noSlash]
  rfl

theorem place_eq_ok_iff {name : String} :
    place directory name = .ok location ↔
      ¬nameLimit < name.utf8ByteSize ∧ location = directory ++ [name] := by
  unfold place
  split
  · simp [*]
  · simp [*, eq_comm]

theorem moved_of_moveOnto (succeeded : volume.moveOnto temporary path = .ok left) :
    volume.Moved temporary path left := by
  unfold moveOnto at succeeded
  rcases exists_of_bind_eq_ok succeeded with ⟨_, checked, succeeded⟩
  rcases last : lastPart path with ⟨above, name⟩
  simp only [last] at succeeded
  rcases exists_of_bind_eq_ok succeeded with ⟨directory, resolved, succeeded⟩
  rcases name with _ | name
  · cases succeeded
  · simp only at succeeded
    rcases exists_of_bind_eq_ok succeeded with ⟨location, placed, succeeded⟩
    rcases place_eq_ok_iff.mp placed with ⟨short, rfl⟩
    split at succeeded
    · cases succeeded
    · rename_i noSlash
      rcases parts_of_lastPart last (by simpa using noSlash) with ⟨cut, notDot, notUp⟩
      split at succeeded
      · cases succeeded
      · cases succeeded
      · rename_i moves notDirectory
        rcases exists_of_bind_eq_ok succeeded with ⟨_, -, succeeded⟩
        cases succeeded
        exact .intro checked cut ⟨notDot, notUp, short⟩
          (resolveDirectory_eq_ok_iff.mp resolved) moves notDirectory

/-- A volume is another one, or another one with a temporary file that could not be taken away. -/
inductive Littered (volume : Volume) (path : Path) : Volume → Prop
  | clean : Littered volume path volume
  | temporary {directory : Location} {attempt : Nat} {content : ByteArray}
      (leads : volume.resolveDirectory path.directory (parts path.directory) = .ok directory)
      (free : volume.entry? (directory ++ [temporaryName attempt]) = none)
      (refused : volume.refusal .removeTemporary ≠ none) :
      Littered volume path (volume.put (directory ++ [temporaryName attempt]) (.file content))

theorem exists_of_freeTemporary {fuel attempt : Nat}
    (found : volume.freeTemporary directory fuel attempt = some temporary) :
    ∃ attempt, temporary = directory ++ [temporaryName attempt] ∧
      volume.entry? temporary = none := by
  induction fuel generalizing attempt with
  | zero => cases found
  | succ fuel ih =>
      rw [freeTemporary] at found
      split at found
      · rename_i free
        cases found
        exact ⟨attempt, rfl, Option.isNone_iff_eq_none.mp free⟩
      · exact ih found

theorem exists_of_createTemporary
    (created : volume.createTemporary path = .ok (temporary, staged)) :
    staged = volume.put temporary (.file .empty) ∧ volume.entry? temporary = none ∧
      ∃ directory attempt, volume.resolveDirectory path (parts path) = .ok directory ∧
        temporary = directory ++ [temporaryName attempt] := by
  unfold createTemporary at created
  rcases exists_of_bind_eq_ok created with ⟨_, -, created⟩
  rcases exists_of_bind_eq_ok created with ⟨directory, leads, created⟩
  rcases exists_of_bind_eq_ok created with ⟨_, -, created⟩
  split at created
  · rename_i location found
    rcases exists_of_freeTemporary found with ⟨attempt, named, free⟩
    cases created
    exact ⟨rfl, free, directory, attempt, leads, named⟩
  · cases created

/-- What a replacement can come to: nothing but litter, or new content at the place that the last
part of the path names. -/
inductive Replaced (volume : Volume) (path : Path) (content : ByteArray) :
    Except Error Unit × Volume → Prop
  | failed {error : Error} {left : Volume} (littered : volume.Littered path left) :
      Replaced volume path content (.error error, left)
  | done {above : List String} {name : String} {left : Nat} {directory : Location}
      (checked : checkPath path = .ok ()) (cut : parts path = above ++ [name])
      (isName : IsName name)
      (walk : volume.Walk linkLimit (volume.origin path) above left directory)
      (notDirectory : volume.entry? (directory ++ [name]) ≠ some .directory) :
      Replaced volume path content (.ok (), volume.put (directory ++ [name]) (.file content))

/-- Moving a filled temporary file is all that a replacement does in the end. -/
theorem replaced_of_moved (free : volume.entry? temporary = none)
    (moved : (volume.put temporary (.file content)).Moved temporary path left) :
    volume.Replaced path content (.ok (), left) := by
  have named : temporary ≠ [] := ne_nil_of_ne_directory (by rw [free]; simp)
  rcases moved with ⟨checked, cut, isName, leads, moves, notDirectory⟩
  rw [entry?_put_self named] at moves
  cases moves
  rw [erase_put_self, erase_eq_self free]
  rcases Walk.exists_of_follow_dot leads with ⟨left, walk⟩
  refine .done checked cut isName
    (walk.congr fun place => (way?_put_file named (way?_free free) place).symm) ?_
  intro directory
  apply notDirectory
  rw [entry?_put_of_ne, directory]
  intro same
  rw [same, free] at directory
  cases directory

theorem replaced_replaceFile (volume : Volume) (path : Path) (content : ByteArray) :
    volume.Replaced path content (volume.replaceFile path content) := by
  unfold replaceFile
  split
  case h_1 => exact .failed .clean
  rename_i temporary staged created
  rcases exists_of_createTemporary created with ⟨rfl, free, directory, attempt, leads, rfl⟩
  dsimp only [fill]
  rw [put_put_self]
  split <;> rename_i finished
  · rcases exists_of_bind_eq_ok finished with ⟨_, written, finished⟩
    rcases exists_of_bind_eq_ok finished with ⟨_, -, finished⟩
    rw [carry_of_allowed (allow_eq_ok_iff.mp written)] at finished
    exact replaced_of_moved free (moved_of_moveOnto finished)
  · apply Replaced.failed
    unfold discard
    split
    case isTrue =>
      rw [erase_put_self, erase_eq_self free]
      exact .clean
    case isFalse refused =>
      exact .temporary leads free fun allowed => refused (Option.isNone_iff_eq_none.mpr allowed)

theorem replaceFile_of_stages
    (created : volume.createTemporary path.directory = .ok (temporary, staged))
    (written : staged.fill temporary content = (.ok (), filled))
    (synced : filled.allow .sync = .ok ()) (moved : filled.moveOnto temporary path = .ok left) :
    volume.replaceFile path content = (.ok (), left) := by
  unfold replaceFile
  rw [created]
  simp only [written, synced, moved, bind, Except.bind]

namespace Littered

theorem grows (littered : volume.Littered path left) : volume.Grows left := by
  cases littered with
  | clean => exact .refl volume
  | temporary leads free refused => exact grows_put_file (by simp) (way?_free free)

theorem wellFormed (littered : volume.Littered path left) (wellFormed : volume.WellFormed) :
    left.WellFormed := by
  cases littered with
  | clean => exact wellFormed
  | temporary leads free refused =>
      rcases resolveDirectory_iff_walk.mp leads with ⟨links, walk⟩
      have directory := walk.ends_in_directory wellFormed (wellFormed.entry?_origin _)
      exact wellFormed.put directory (by simp [free])

/-- A temporary file is put where nothing is, so it leaves everything as it was. -/
theorem at?_eq {entry : Entry} (littered : volume.Littered path left)
    (here : volume.at? path = some entry) : left.at? path = some entry := by
  have grows := littered.grows
  cases littered with
  | clean => exact here
  | temporary leads free refused =>
      rcases at?_eq_some_iff.mp here with ⟨location, resolved, stands⟩
      refine at?_put_of_ne grows resolved ?_ stands
      rintro rfl
      rw [free] at stands
      cases stands

end Littered

theorem Replaced.wellFormed {outcome : Except Error Unit × Volume}
    (replaced : volume.Replaced path content outcome) (wellFormed : volume.WellFormed) :
    outcome.2.WellFormed := by
  cases replaced with
  | failed littered => exact littered.wellFormed wellFormed
  | done checked cut isName walk notDirectory =>
      have directory := walk.ends_in_directory wellFormed (wellFormed.entry?_origin path)
      exact wellFormed.put directory notDirectory

theorem Replaced.refusal_eq {outcome : Except Error Unit × Volume}
    (replaced : volume.Replaced path content outcome) : outcome.2.refusal = volume.refusal := by
  cases replaced with
  | failed littered => exact littered.grows.refusal
  | done => rfl

theorem resolve_of_walk {above rest : List String} {links : Nat}
    (checked : checkPath path = .ok ()) (cut : parts path = above ++ rest)
    (walk : volume.Walk linkLimit (volume.origin path) above links directory) :
    volume.resolve path = volume.follow true links directory rest := by
  unfold resolve
  rw [checked, cut, ← walk.follow_append]
  rfl

/-- A path can be read or is known to lead to nothing. -/
def Readable (volume : Volume) (path : Path) : Prop :=
  (∃ content, volume.read path .look = .ok content) ∨ volume.read path .look = .error .notFound

theorem Readable.allowed (readable : volume.Readable path) (wellFormed : volume.WellFormed) :
    volume.refusal .look = none := by
  rcases readable with ⟨content, succeeded⟩ | missing
  · exact (read_eq_ok_iff.mp succeeded).1
  · cases refused : volume.refusal .look with
    | none => rfl
    | some error =>
        have faulty : volume.read path .look = .error error := by
          simp [read, allow, refused, bind, Except.bind]
        rw [faulty] at missing
        cases missing
        exact absurd refused wellFormed.faults

theorem Readable.resolve_ne_linkLoop (readable : volume.Readable path)
    (allowed : volume.refusal .look = none) : volume.resolve path ≠ .error .linkLoop := by
  intro looped
  rcases readable with ⟨content, read⟩ | read <;>
    simp [Volume.read, allow, allowed, looped, bind, Except.bind] at read

theorem Readable.notDirectory (readable : volume.Readable path)
    (allowed : volume.refusal .look = none) (found : volume.resolve path = .ok (.found location)) :
    volume.entry? location ≠ some .directory := by
  intro directory
  rcases readable with ⟨content, read⟩ | read <;>
    simp [Volume.read, allow, allowed, found, directory, bind, Except.bind, throw, throwThe,
      MonadExceptOf.throw] at read

/-- The way to what a readable path names stays the same when that is replaced. -/
theorem Readable.walk_put {above : List String} {name : String} {links : Nat}
    (readable : volume.Readable path) (wellFormed : volume.WellFormed)
    (checked : checkPath path = .ok ()) (cut : parts path = above ++ [name])
    (isName : IsName name)
    (walk : volume.Walk linkLimit (volume.origin path) above links directory)
    (notDirectory : volume.entry? (directory ++ [name]) ≠ some .directory)
    (content : ByteArray) :
    (volume.put (directory ++ [name]) (.file content)).Walk linkLimit (volume.origin path) above
      links directory := by
  have allowed := readable.allowed wellFormed
  have resolved := resolve_of_walk checked cut walk
  -- Of what can stand at the place, only a link may be part of the way there.
  by_cases isLink : ∃ target, volume.entry? (directory ++ [name]) = some (.link target)
  · rcases isLink with ⟨target, link⟩
    have isDirectory := walk.ends_in_directory wellFormed (wellFormed.entry?_origin path)
    rcases walk.congr_or_passes link fun place elsewhere => way?_put_of_ne elsewhere with
      kept | ⟨goal, budget, rest, passes⟩
    · exact kept
    · exfalso
      rcases passes.follow_link_of_passes wellFormed isDirectory isName link goal with
        looped | ⟨location, found, stands⟩
      · exact readable.resolve_ne_linkLoop allowed (resolved.trans looped)
      · exact readable.notDirectory allowed (resolved.trans found) stands
  · refine walk.congr (way?_put_file (by simp) (way?_eq_none ?_))
    intro entry stands leads
    cases entry with
    | file content => cases leads
    | directory => exact notDirectory stands
    | link target => exact isLink ⟨target, stands⟩

/-- After a replacement that succeeds, what could be read before, or was missing, is the new
content. -/
theorem Replaced.at?_eq (replaced : volume.Replaced path content (.ok (), left))
    (wellFormed : volume.WellFormed) (readable : volume.Readable path) :
    left.at? path = some (.file content) := by
  generalize succeeded : (Except.ok (), left) = outcome at replaced
  cases replaced with
  | failed => cases succeeded
  | @done above name links directory checked cut isName walk notDirectory =>
      cases succeeded
      have stands : Volume.entry? (volume.put (directory ++ [name]) (.file content))
          (directory ++ [name]) = some (.file content) := entry?_put_self (by simp)
      have kept := readable.walk_put wellFormed checked cut isName walk notDirectory content
      refine at?_eq_some_iff.mpr ⟨directory ++ [name], ?_, stands⟩
      rw [resolve_of_walk checked cut kept]
      exact follow_file isName stands

/-- What can be read can be read when it has been backed up. -/
theorem BackedUp.readable (backedUp : volume.BackedUp path time left)
    (wellFormed : volume.WellFormed) (readable : volume.Readable path) : left.Readable path := by
  have allowed := readable.allowed wellFormed
  have grows := backedUp.grows wellFormed
  have reads : ∀ {content}, volume.at? path = some (.file content) → left.Readable path := by
    intro content file
    rcases grows.at?_file file with ⟨copied, kept⟩
    rw [← grows.refusal] at allowed
    exact .inl ⟨copied, read_eq_ok_iff.mpr ⟨allowed, kept⟩⟩
  cases backedUp with
  | none => exact readable
  | copy target resolved apart source => exact reads (at?_eq_some_iff.mpr ⟨_, resolved, source⟩)
  | emptied target resolved source => exact reads (at?_eq_some_iff.mpr ⟨_, resolved, source⟩)

/-- What a replacement that fails leaves: a backup, and perhaps a temporary file. -/
def Abandoned (volume : Volume) (path : Path) (time : Timestamp) (left : Volume) : Prop :=
  ∃ between, volume.BackedUp path time between ∧ between.Littered path left

/-- A replacement that fails may change what the path names: the copy would be written over it,
or it is missing and a temporary file may be left at its name. -/
def IsExposed (volume : Volume) (path : Path) (time : Timestamp) : Prop :=
  volume.BacksUpOntoItself path time ∨
    volume.at? path = none ∧ volume.refusal .removeTemporary ≠ none

namespace Abandoned

theorem wellFormed (abandoned : volume.Abandoned path time left)
    (wellFormed : volume.WellFormed) : left.WellFormed := by
  rcases abandoned with ⟨between, backedUp, littered⟩
  exact littered.wellFormed (backedUp.wellFormed wellFormed)

/-- Where temporary files can be taken away, only the backup is left. -/
theorem backedUp (abandoned : volume.Abandoned path time left) (wellFormed : volume.WellFormed)
    (allowed : volume.refusal .removeTemporary = none) : volume.BackedUp path time left := by
  rcases abandoned with ⟨between, backedUp, littered⟩
  cases littered with
  | clean => exact backedUp
  | temporary leads free refused =>
      rw [(backedUp.grows wellFormed).refusal] at refused
      exact absurd allowed refused

theorem at?_eq (abandoned : volume.Abandoned path time left) (wellFormed : volume.WellFormed)
    (safe : ¬volume.IsExposed path time) : left.at? path = volume.at? path := by
  rcases abandoned with ⟨between, backedUp, littered⟩
  have copied := backedUp.at?_eq wellFormed fun onto => safe (.inl onto)
  have refusal := (backedUp.grows wellFormed).refusal
  cases here : volume.at? path with
  | some entry => exact littered.at?_eq (copied.trans here)
  | none =>
      cases littered with
      | clean => exact copied.trans here
      | temporary leads free refused => exact absurd (.inr ⟨here, refusal ▸ refused⟩) safe

theorem read_eq (abandoned : volume.Abandoned path time left) (wellFormed : volume.WellFormed)
    (safe : ¬volume.IsExposed path time) (step : Step) :
    left.read path step = volume.read path step := by
  have kept := abandoned.at?_eq wellFormed safe
  rcases abandoned with ⟨between, backedUp, littered⟩
  have copied := backedUp.read_eq wellFormed (fun onto => safe (.inl onto)) step
  have refusal := (backedUp.grows wellFormed).refusal
  cases here : volume.at? path with
  | some entry =>
      exact read_congr (littered.grows.refusal.trans refusal) here (kept.trans here)
  | none =>
      cases littered with
      | clean => exact copied
      | temporary leads free refused => exact absurd (.inr ⟨here, refusal ▸ refused⟩) safe

end Abandoned

theorem abandoned_of_error (wellFormed : volume.WellFormed)
    (failed : volume.replaceWithBackup path content time = (.error error, left)) :
    volume.Abandoned path time left := by
  have backedUp := backedUp_backUp wellFormed path time
  have replaced := replaced_replaceFile (volume.backUp path time) path content
  rw [← replaceWithBackup, failed] at replaced
  cases replaced with
  | failed littered => exact ⟨_, backedUp, littered⟩

theorem wellFormed_replaceWithBackup (wellFormed : volume.WellFormed) (path : Path)
    (content : ByteArray) (time : Timestamp) :
    (volume.replaceWithBackup path content time).2.WellFormed := by
  have backedUp := (backedUp_backUp wellFormed path time).wellFormed wellFormed
  exact (replaced_replaceFile _ path content).wellFormed backedUp

theorem refusal_replaceWithBackup (wellFormed : volume.WellFormed) (path : Path)
    (content : ByteArray) (time : Timestamp) :
    (volume.replaceWithBackup path content time).2.refusal = volume.refusal := by
  have backedUp := (backedUp_backUp wellFormed path time).grows wellFormed
  exact (replaced_replaceFile _ path content).refusal_eq.trans backedUp.refusal

theorem at?_replaceWithBackup (wellFormed : volume.WellFormed)
    (readable : volume.Readable path)
    (succeeded : volume.replaceWithBackup path content time = (.ok (), left)) :
    left.at? path = some (.file content) := by
  have backedUp := backedUp_backUp wellFormed path time
  have replaced := replaced_replaceFile (volume.backUp path time) path content
  rw [← replaceWithBackup, succeeded] at replaced
  exact replaced.at?_eq (backedUp.wellFormed wellFormed) (backedUp.readable wellFormed readable)

end Volume

end Gatehouse.Disk
