import Gatehouse.Disk.Replace
import Gatehouse.Proofs.Disk.Following

/-!
# Copies of files

A file is copied to its backup as far as that is possible.  The copy goes where the name of
the backup leads, and what is there already is emptied first.  If a link at that name leads
back to the file, the file itself is emptied, and then there is nothing to copy.  In any other
case the file stays as it was, and so do all paths.
-/

namespace Gatehouse.Disk.Volume

variable {volume other left : Volume} {path : Path} {time : Timestamp} {step : Step}
  {content : ByteArray} {location place : Location} {error : Error}

theorem resolve_eq_ok_iff {target : Target} :
    volume.resolve path = .ok target ↔
      checkPath path = .ok () ∧
        volume.follow true linkLimit (volume.origin path) (parts path) = .ok target := by
  unfold resolve
  cases checkPath path with
  | error error => simp [bind, Except.bind]
  | ok _ => simp [bind, Except.bind]

theorem allow_eq_ok_iff : volume.allow step = .ok () ↔ volume.refusal step = none := by
  unfold allow
  cases volume.refusal step <;> simp

theorem carry_of_allowed (allowed : volume.refusal step = none) (content : ByteArray) :
    volume.carry step content = content :=
  if_pos (Option.isNone_iff_eq_none.mpr allowed)

theorem carry_empty (volume : Volume) (step : Step) : volume.carry step .empty = .empty := by
  unfold carry
  split
  · rfl
  · exact ByteArray.ext (by simp)

theorem read_eq_ok_iff :
    volume.read path step = .ok content ↔
      volume.refusal step = none ∧ volume.at? path = some (.file content) := by
  unfold read at? allow
  cases volume.refusal step with
  | some error => simp [bind, Except.bind]
  | none =>
      rcases volume.resolve path with error | ⟨location | location⟩
      · simp [bind, Except.bind]
      · simp only [bind, Except.bind]
        rcases volume.entry? location with _ | ⟨found | _ | target⟩ <;>
          simp [pure, Except.pure, throw, throwThe, MonadExceptOf.throw]
      · simp [bind, Except.bind, throw, throwThe, MonadExceptOf.throw]

theorem at?_ne_of_absent {entry : Entry} (absent : ∀ place, volume.entry? place ≠ some entry)
    (path : Path) : volume.at? path ≠ some entry := by
  intro found
  unfold at? at found
  split at found
  · exact absent _ found
  · cases found

theorem at?_eq_some_iff {entry : Entry} :
    volume.at? path = some entry ↔
      ∃ location, volume.resolve path = .ok (.found location) ∧
        volume.entry? location = some entry := by
  unfold at?
  rcases volume.resolve path with error | ⟨location | location⟩ <;> simp

theorem read_of_at? {entry : Entry} (found : volume.at? path = some entry) :
    volume.read path step = (volume.allow step).bind fun _ =>
      match entry with
      | .file content => .ok content
      | .directory => .error .isDirectory
      | .link _ => .error .notFound := by
  rcases at?_eq_some_iff.mp found with ⟨location, resolved, stands⟩
  unfold read
  cases volume.allow step with
  | error error => rfl
  | ok _ =>
      simp only [resolved, bind, Except.bind, stands]
      cases entry <;> rfl

/-- Where a path leads to the same thing, the same is told about it. -/
theorem read_congr {entry : Entry} (refusal : other.refusal = volume.refusal)
    (found : volume.at? path = some entry) (kept : other.at? path = some entry) :
    other.read path step = volume.read path step := by
  rw [read_of_at? found, read_of_at? kept, allow, allow, refusal]

theorem Grows.origin_eq (grows : volume.Grows other) (path : Path) :
    other.origin path = volume.origin path := by
  rw [origin, origin, grows.workingDirectory]

/-- Where files are added or overwritten, paths lead to where they led. -/
theorem Grows.resolve_eq (grows : volume.Grows other)
    (resolved : volume.resolve path = .ok (.found location)) :
    other.resolve path = .ok (.found location) := by
  rcases resolve_eq_ok_iff.mp resolved with ⟨checked, followed⟩
  refine resolve_eq_ok_iff.mpr ⟨checked, ?_⟩
  rw [grows.origin_eq]
  exact ((follows_of_follow followed).grow grows).follow_eq

theorem Grows.at?_file (grows : volume.Grows other)
    (file : volume.at? path = some (.file content)) :
    ∃ content, other.at? path = some (.file content) := by
  rcases at?_eq_some_iff.mp file with ⟨location, resolved, stands⟩
  rcases grows.entry?_file stands with ⟨content, stands⟩
  exact ⟨content, at?_eq_some_iff.mpr ⟨location, grows.resolve_eq resolved, stands⟩⟩

/-- A file put elsewhere leaves what a path names as it was. -/
theorem at?_put_of_ne {entry : Entry} (grows : volume.Grows (volume.put place (.file content)))
    (resolved : volume.resolve path = .ok (.found location)) (apart : location ≠ place)
    (stands : volume.entry? location = some entry) :
    (volume.put place (.file content)).at? path = some entry := by
  refine at?_eq_some_iff.mpr ⟨location, grows.resolve_eq resolved, ?_⟩
  rw [entry?_put_of_ne apart, stands]

/-- A copy is written where no path leads on, into a directory. -/
theorem exists_of_copyTarget? (wellFormed : volume.WellFormed)
    (target : volume.copyTarget? path = some location) :
    ∃ parent name, location = parent ++ [name] ∧ volume.entry? parent = some .directory ∧
      volume.way? location = none := by
  unfold copyTarget? at target
  split at target
  · rename_i free resolved
    cases target
    have follows := follows_of_follow (resolve_eq_ok_iff.mp resolved).2
    rcases follows.isEnd wellFormed (wellFormed.entry?_origin path) with
      ⟨free, parent, name, same, directory⟩
    exact ⟨parent, name, same, directory, way?_free free⟩
  · split at target
    · rename_i content file
      cases target
      rcases wellFormed.exists_parent_of_file file with ⟨parent, name, same, directory⟩
      exact ⟨parent, name, same, directory, way?_file file⟩
    · cases target
  · cases target

theorem ne_directory_of_way? (closed : volume.way? location = none) :
    volume.entry? location ≠ some .directory := by
  intro directory
  rw [way?_eq_some_iff.mpr ⟨directory, rfl⟩] at closed
  cases closed

/-- A copy of the file of a path would be written over the file itself. -/
def BacksUpOntoItself (volume : Volume) (path : Path) (time : Timestamp) : Prop :=
  ∃ location, volume.resolve path = .ok (.found location) ∧
    volume.copyTarget? (backupPath path time) = some location

/-- What a volume is when the file of a path has been backed up as far as possible. -/
inductive BackedUp (volume : Volume) (path : Path) (time : Timestamp) : Volume → Prop
  | none : BackedUp volume path time volume
  /-- The copy holds the content as far as it got through. -/
  | copy {location place : Location} {content : ByteArray}
      (target : volume.copyTarget? (backupPath path time) = some place)
      (resolved : volume.resolve path = .ok (.found location)) (apart : location ≠ place)
      (source : volume.entry? location = some (.file content)) :
      BackedUp volume path time (volume.put place (.file (volume.carry .copyContent content)))
  | emptied {location : Location} {content : ByteArray}
      (target : volume.copyTarget? (backupPath path time) = some location)
      (resolved : volume.resolve path = .ok (.found location))
      (source : volume.entry? location = some (.file content)) :
      BackedUp volume path time (volume.put location (.file .empty))

theorem grows_put_copy (wellFormed : volume.WellFormed)
    (target : volume.copyTarget? path = some place) (content : ByteArray) :
    volume.Grows (volume.put place (.file content)) := by
  rcases exists_of_copyTarget? wellFormed target with ⟨parent, name, rfl, -, closed⟩
  exact grows_put_file (by simp) closed

theorem backedUp_backUp (wellFormed : volume.WellFormed) (path : Path) (time : Timestamp) :
    volume.BackedUp path time (volume.backUp path time) := by
  unfold backUp copyFile
  split
  case isFalse => exact .none
  split
  case h_2 => exact .none
  rename_i before place source target _
  rcases at?_eq_some_iff.mp source with ⟨location, resolved, stands⟩
  have grows := grows_put_copy wellFormed target .empty
  dsimp only
  by_cases same : location = place
  · subst same
    have now : (volume.put location (.file .empty)).at? path = some (.file .empty) :=
      at?_eq_some_iff.mpr
        ⟨location, grows.resolve_eq resolved, entry?_put_self (ne_nil_of_file stands)⟩
    rw [now]
    dsimp only
    rw [put_put_self, carry_empty]
    exact .emptied target resolved stands
  · rw [at?_put_of_ne grows resolved same stands]
    dsimp only
    rw [put_put_self]
    exact .copy target resolved same stands

namespace BackedUp

/-- Either way one file is written, if anything is. -/
theorem cases_put (backedUp : volume.BackedUp path time left) :
    left = volume ∨ ∃ place content, volume.copyTarget? (backupPath path time) = some place ∧
      left = volume.put place (.file content) := by
  cases backedUp with
  | none => exact .inl rfl
  | copy target => exact .inr ⟨_, _, target, rfl⟩
  | emptied target => exact .inr ⟨_, _, target, rfl⟩

theorem wellFormed (backedUp : volume.BackedUp path time left)
    (wellFormed : volume.WellFormed) : left.WellFormed := by
  rcases backedUp.cases_put with rfl | ⟨place, content, target, rfl⟩
  · exact wellFormed
  · rcases exists_of_copyTarget? wellFormed target with ⟨parent, name, rfl, directory, closed⟩
    exact wellFormed.put directory (ne_directory_of_way? closed)

theorem grows (backedUp : volume.BackedUp path time left)
    (wellFormed : volume.WellFormed) : volume.Grows left := by
  rcases backedUp.cases_put with rfl | ⟨place, content, target, rfl⟩
  · exact .refl _
  · exact grows_put_copy wellFormed target content

/-- A backup leaves what the path names as it was, unless the copy is written over it. -/
theorem at?_eq (backedUp : volume.BackedUp path time left) (wellFormed : volume.WellFormed)
    (apart : ¬volume.BacksUpOntoItself path time) : left.at? path = volume.at? path := by
  cases backedUp with
  | none => rfl
  | copy target resolved apart source =>
      rw [at?_put_of_ne (grows_put_copy wellFormed target _) resolved apart source]
      exact (at?_eq_some_iff.mpr ⟨_, resolved, source⟩).symm
  | emptied target resolved => exact absurd ⟨_, resolved, target⟩ apart

theorem read_eq (backedUp : volume.BackedUp path time left) (wellFormed : volume.WellFormed)
    (apart : ¬volume.BacksUpOntoItself path time) (step : Step) :
    left.read path step = volume.read path step := by
  have kept := backedUp.at?_eq wellFormed apart
  cases backedUp with
  | none => rfl
  | copy target resolved apart source =>
      have found := at?_eq_some_iff.mpr ⟨_, resolved, source⟩
      exact read_congr rfl found (kept.trans found)
  | emptied target resolved => exact absurd ⟨_, resolved, target⟩ apart

end BackedUp

end Gatehouse.Disk.Volume
