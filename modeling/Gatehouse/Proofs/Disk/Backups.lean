import Gatehouse.Proofs.Disk.Naming
import Gatehouse.Proofs.Disk.Replacement

/-!
# What backups keep

The backup of a file lies in its directory, under a name of its own for every second.  A
replacement of the file writes there and at the name of the file, and nowhere else; so it leaves
the backups of other seconds alone.

That is so as long as no link stands at the name of the backup, since a copy is written through a
link, wherever it leads.
-/

namespace Gatehouse.Disk.Volume

variable {volume other left : Volume} {path : Path} {directory location : Location}
  {name : String} {time later : Timestamp} {content replaced : ByteArray}

/-- The path leads to a directory and asks for a name there. -/
def Names (volume : Volume) (path : Path) (directory : Location) (name : String) : Prop :=
  ∃ above links, parts path = above ++ [name] ∧ IsName name ∧
    volume.Walk linkLimit (volume.origin path) above links directory

theorem Names.unique {elsewhere : Location} {another : String}
    (names : volume.Names path directory name) (again : volume.Names path elsewhere another) :
    directory = elsewhere ∧ name = another := by
  rcases names with ⟨above, links, cut, -, walk⟩
  rcases again with ⟨above', links', cut', -, walk'⟩
  rcases List.append_inj' (cut.symm.trans cut') rfl with ⟨rfl, same⟩
  have meets := walk.follow_eq.symm.trans walk'.follow_eq
  simp only [Except.ok.injEq, Target.found.injEq] at meets
  exact ⟨meets, List.singleton_inj.mp same⟩

theorem Names.congr (names : volume.Names path directory name)
    (start : other.workingDirectory = volume.workingDirectory)
    (ways : ∀ place, other.way? place = volume.way? place) :
    other.Names path directory name := by
  rcases names with ⟨above, links, cut, isName, walk⟩
  have origin : other.origin path = volume.origin path := by
    unfold Volume.origin
    rw [start]
  refine ⟨above, links, cut, isName, ?_⟩
  rw [origin]
  exact walk.congr ways

theorem Walk.of_dots {links left : Nat} {current : Location} {front dots : List String}
    (walk : volume.Walk links current (front ++ dots) left directory)
    (still : ∀ dot ∈ dots, dot = ".") :
    ∃ left, volume.Walk links current front left directory := by
  rcases walk.exists_first with ⟨between, reached, first⟩
  have stays : volume.follow true between reached dots = .ok (.found reached) := by
    clear walk
    induction dots with
    | nil => simp
    | cons dot rest ih =>
        rw [List.forall_mem_cons] at still
        rw [still.1, follow_stay]
        exact ih still.2
  have arrives := walk.follow_eq
  rw [first.follow_append, stays] at arrives
  cases arrives
  exact ⟨between, first⟩

theorem Names.backup (names : volume.Names path directory name) (time : Timestamp)
    (isName : IsName (backupName name time)) :
    volume.Names (backupPath path time) directory (backupName name time) := by
  rcases names with ⟨above, links, cut, isNameOfFile, walk⟩
  rcases exists_parts_backupPath cut isNameOfFile with ⟨front, dots, rfl, still, backup⟩
  rcases backup time with ⟨cutBackup, start⟩
  have origin : volume.origin (backupPath path time) = volume.origin path := by
    unfold Volume.origin
    rw [start]
  rcases walk.of_dots still with ⟨left, walk⟩
  exact ⟨front, left, cutBackup, isName, by rwa [origin]⟩

/-- A link stands where the path asks for a name. -/
def IsLink (volume : Volume) (path : Path) : Prop :=
  ∃ directory name target, volume.Names path directory name ∧
    volume.entry? (directory ++ [name]) = some (.link target)

def IsLinkless (volume : Volume) : Prop :=
  ∀ place target, volume.entry? place ≠ some (.link target)

theorem isLinkless_blank : blank.IsLinkless := by
  intro place target
  simp only [blank, entry?, List.lookup_nil]
  split <;> simp

theorem IsLinkless.put_file (linkless : volume.IsLinkless) (named : location ≠ []) :
    (volume.put location (.file content)).IsLinkless := by
  intro place target
  by_cases same : place = location
  · simp [same, entry?_put_self named]
  · simpa [entry?_put_of_ne same] using linkless place target

theorem IsLinkless.not_isLink (linkless : volume.IsLinkless) : ¬volume.IsLink path := by
  rintro ⟨directory, name, target, -, link⟩
  exact linkless _ _ link

theorem backupName_ne_dots (name : String) (time : Timestamp) :
    backupName name time ≠ "." ∧ backupName name time ≠ ".." := by
  have longer : 4 ≤ (backupName name time).length := by
    have suffix : ".bak".length = 4 := rfl
    simp only [backupName, String.length_append]
    omega
  constructor
  · intro same
    rw [same] at longer
    exact absurd longer (by decide)
  · intro same
    rw [same] at longer
    exact absurd longer (by decide)

/-- A name at which no link stands is where it leads. -/
theorem Follows.single {links : Nat} {part : String} {final : Target}
    (follows : volume.Follows links directory [part] final) (notDot : part ≠ ".")
    (notUp : part ≠ "..")
    (noLink : IsName part → ∀ goal, volume.entry? (directory ++ [part]) ≠ some (.link goal)) :
    IsName part ∧ (final = .free (directory ++ [part]) ∨ final = .found (directory ++ [part])) := by
  cases follows with
  | stay onward => exact absurd rfl notDot
  | up onward => exact absurd rfl notUp
  | atFile isName file => exact ⟨isName, .inr rfl⟩
  | atFree isName free => exact ⟨isName, .inl rfl⟩
  | down isName deeper onward =>
      cases onward
      exact ⟨isName, .inr rfl⟩
  | through isName link => exact absurd link (noLink isName _)

/-- Where no link stands, a copy is written at the name of the backup itself. -/
theorem Names.copy_place (names : volume.Names path directory name)
    (target : volume.copyTarget? (backupPath path time) = some location)
    (noLink : ¬volume.IsLink (backupPath path time)) :
    checkPath (backupPath path time) = .ok () ∧ IsName (backupName name time) ∧
      location = directory ++ [backupName name time] := by
  have ⟨above, links, cut, isNameOfFile, walk⟩ := names
  rcases exists_parts_backupPath cut isNameOfFile with ⟨front, dots, rfl, still, backup⟩
  rcases backup time with ⟨cutBackup, start⟩
  have origin : volume.origin (backupPath path time) = volume.origin path := by
    unfold Volume.origin
    rw [start]
  rcases walk.of_dots still with ⟨left, walk⟩
  have leads {final : Target} (resolved : volume.resolve (backupPath path time) = .ok final) :
      checkPath (backupPath path time) = .ok () ∧ IsName (backupName name time) ∧
        (final = .free (directory ++ [backupName name time]) ∨
          final = .found (directory ++ [backupName name time])) := by
    rcases resolve_eq_ok_iff.mp resolved with ⟨checked, followed⟩
    rw [cutBackup, origin, walk.follow_append] at followed
    rcases backupName_ne_dots name time with ⟨notDot, notUp⟩
    refine ⟨checked, (follows_of_follow followed).single notDot notUp ?_⟩
    intro isName goal link
    apply noLink
    exact ⟨directory, _, goal, names.backup time isName, link⟩
  unfold copyTarget? at target
  split at target
  case h_1 free resolved =>
    cases target
    simpa using leads resolved
  case h_2 found resolved =>
    split at target
    · cases target
      simpa using leads resolved
    · cases target
  case h_3 => cases target

/-- The copy of a file to its backup succeeds; what it is copied to is another file. -/
structure CanBackUp (volume : Volume) (path : Path) (time : Timestamp) : Prop where
  allowed : volume.refusal .copy = none
  whole : volume.refusal .copyContent = none
  apart : ∃ source target, volume.resolve path = .ok (.found source) ∧
    volume.copyTarget? (backupPath path time) = some target ∧ target ≠ source

theorem CanBackUp.backUp_eq (canBackUp : volume.CanBackUp path time)
    (wellFormed : volume.WellFormed) (source : volume.at? path = some (.file content)) :
    ∃ location, volume.copyTarget? (backupPath path time) = some location ∧
      volume.backUp path time = volume.put location (.file content) := by
  rcases canBackUp.apart with ⟨place, location, resolved, target, apart⟩
  rcases at?_eq_some_iff.mp source with ⟨found, again, stands⟩
  rw [resolved] at again
  cases again
  have emptied := at?_put_of_ne (grows_put_copy wellFormed target .empty) resolved apart.symm stands
  have written : (volume.put location (.file .empty)).refusal .copyContent = none :=
    canBackUp.whole
  refine ⟨location, target, ?_⟩
  simp only [backUp, hasAt, source, Option.isSome_some, if_true, copyFile, target,
    canBackUp.allowed, emptied, carry_of_allowed written, put_put_self]

/-- What a replacement of a file leaves: the old content at the name of the backup, the new
content at the name of the file, and the way to both as it was. -/
inductive Superseded (volume : Volume) (path : Path) (time : Timestamp)
    (old content : ByteArray) : Volume → Prop
  | intro {directory : Location} {name : String} {left : Volume}
      (checked : checkPath (backupPath path time) = .ok ()) (isName : IsName (backupName name time))
      (before : volume.Names path directory name) (after : left.Names path directory name)
      (leaves : left = (volume.put (directory ++ [backupName name time]) (.file old)).put
        (directory ++ [name]) (.file content)) :
      Superseded volume path time old content left

theorem superseded_of_canBackUp {old : ByteArray} (wellFormed : volume.WellFormed)
    (source : volume.at? path = some (.file old)) (readable : volume.Readable path)
    (canBackUp : volume.CanBackUp path time)
    (noLink : ¬volume.IsLink (backupPath path time))
    (succeeded : volume.replaceWithBackup path content time = (.ok (), left)) :
    volume.Superseded path time old content left := by
  have backedUp := backedUp_backUp wellFormed path time
  have readableCopy := backedUp.readable wellFormed readable
  have wellFormedCopy := backedUp.wellFormed wellFormed
  rcases canBackUp.backUp_eq wellFormed source with ⟨location, target, copied⟩
  rcases exists_of_copyTarget? wellFormed target with ⟨parent, last, below, -, closed⟩
  -- The copy changes no way; so the file is looked up in the same directory before and after it.
  have ways (place : Location) :
      volume.way? place = (volume.put location (.file old)).way? place :=
    (way?_put_file (by simp [below]) closed place).symm
  have replaced := replaced_replaceFile (volume.backUp path time) path content
  rw [← replaceWithBackup, succeeded, copied] at replaced
  rw [copied] at readableCopy wellFormedCopy
  generalize ending : (Except.ok (), left) = outcome at replaced
  cases replaced with
  | failed => cases ending
  | @done above name links directory sound cut isName walk notDirectory =>
      cases ending
      have between : (volume.put location (.file old)).Names path directory name :=
        ⟨above, links, cut, isName, walk⟩
      have before : volume.Names path directory name := between.congr rfl ways
      rcases before.copy_place target noLink with ⟨checked, isNameOfBackup, rfl⟩
      have kept := readableCopy.walk_put wellFormedCopy sound cut isName walk notDirectory content
      exact .intro checked isNameOfBackup before ⟨above, links, cut, isName, kept⟩ rfl

/-- The backup of a second is there and holds the content. -/
def Keeps (volume : Volume) (path : Path) (time : Timestamp) (content : ByteArray) : Prop :=
  ∃ directory name, checkPath (backupPath path time) = .ok () ∧ IsName (backupName name time) ∧
    volume.Names path directory name ∧
    volume.entry? (directory ++ [backupName name time]) = some (.file content)

theorem Keeps.at?_eq (keeps : volume.Keeps path time content) :
    volume.at? (backupPath path time) = some (.file content) := by
  rcases keeps with ⟨directory, name, checked, isName, names, file⟩
  rcases names.backup time isName with ⟨above, links, cut, -, walk⟩
  refine at?_eq_some_iff.mpr ⟨directory ++ [backupName name time], ?_, file⟩
  rw [resolve_of_walk checked cut walk]
  exact follow_file isName file

variable {old : ByteArray}

theorem Superseded.keeps (superseded : volume.Superseded path time old content left) :
    left.Keeps path time old := by
  rcases superseded with @⟨directory, name, _, checked, isName, before, after, rfl⟩
  refine ⟨directory, name, checked, isName, after, ?_⟩
  have apart := backupName_ne name time
  rw [entry?_put_of_ne (by simpa using apart)]
  exact entry?_put_self (by simp)

theorem Keeps.superseded (keeps : volume.Keeps path time old)
    (superseded : volume.Superseded path later replaced content left)
    (another : later.compact ≠ time.compact) : left.Keeps path time old := by
  rcases superseded with ⟨-, -, before, after, rfl⟩
  rcases keeps with ⟨directory, name, checked, isName, names, file⟩
  -- Both are names in the directory of the file, so only their texts matter.
  rcases names.unique before with ⟨rfl, rfl⟩
  refine ⟨directory, name, checked, isName, after, ?_⟩
  have fromFile : directory ++ [backupName name time] ≠ directory ++ [name] := by
    simpa using backupName_ne name time
  have fromBackup :
      directory ++ [backupName name time] ≠ directory ++ [backupName name later] := by
    intro same
    have names := List.singleton_inj.mp (List.append_cancel_left same)
    exact another (compact_of_backupName names).symm
  rw [entry?_put_of_ne fromFile, entry?_put_of_ne fromBackup]
  exact file

end Gatehouse.Disk.Volume
