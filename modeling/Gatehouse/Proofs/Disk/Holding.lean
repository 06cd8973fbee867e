import Gatehouse.Proofs.Disk.Naming
import Gatehouse.Proofs.Disk.Replacement

/-!
# Replacing a file where paths start

On a disk that holds a file in the directory where relative paths start, every stage of a
replacement of the file can be told: which temporary file is made, what is moved where, and
where the copy goes.  The disk may refuse to make files durable, or to let them be loaded;
otherwise it does what it is asked, and then the replacement succeeds.
-/

namespace Gatehouse.Disk

open Volume (checkPath endsWithSlash lastPart parts)

/-- A path that is a name and nothing else. -/
structure Path.IsPlain (path : Path) : Prop where
  isName : Volume.IsName path
  named : path ≠ ""
  uncut : '/' ∉ path.toList
  readable : '\x00' ∉ path.toList

namespace Path.IsPlain

variable {path : Path}

theorem pieces_eq (plain : path.IsPlain) : path.pieces = [path] := by
  have isCut : IsCut [path] := by simpa [IsCut] using plain.uncut
  have joined : Text.join "/" [path] = path := by simp [Text.join]
  have cut := pieces_join isCut (List.cons_ne_nil _ _)
  rwa [joined] at cut

theorem not_endsWith_slash (plain : path.IsPlain) : endsWithSlash path = false := by
  rw [endsWithSlash, ← Bool.not_eq_true, endsWith_slash_iff, plain.pieces_eq]
  rintro ⟨front, nonempty, same⟩
  exact nonempty (List.append_inj' (same.symm.trans (List.nil_append _).symm) rfl).1

theorem not_isAbsolute (plain : path.IsPlain) : path.isAbsolute = false := by
  rw [← Bool.not_eq_true, isAbsolute_iff, plain.pieces_eq]
  rintro ⟨rest, nonempty, same⟩
  exact nonempty (List.cons.inj same).2.symm

theorem checkPath_eq (plain : path.IsPlain) : checkPath path = .ok () := by
  have short : ¬path.utf8ByteSize ≥ Volume.pathLimit := by
    have := plain.isName.short
    simp only [Volume.nameLimit, Volume.pathLimit] at this ⊢
    omega
  simp [checkPath, plain.readable, plain.named, short]

theorem lastPart_eq (plain : path.IsPlain) : lastPart path = ([], some path) := by
  simp [lastPart, plain.pieces_eq, plain.named, plain.isName.notDot, plain.isName.notUp]

theorem parts_eq (plain : path.IsPlain) : parts path = [path] :=
  (Volume.parts_of_lastPart plain.lastPart_eq plain.not_endsWith_slash).1

theorem directory_eq (plain : path.IsPlain) : path.directory = "." := by
  simp [Path.directory, parent?, meaningful, plain.pieces_eq, dropIdle, plain.named]

theorem backupPath_eq (plain : path.IsPlain) (time : Timestamp) :
    backupPath path time = backupName path time := by
  have last : path.meaningful = [path] := by simp [meaningful, plain.pieces_eq, dropIdle]
  have named : path.fileName? = some path := by
    simp [fileName?, last, plain.named, plain.isName.notDot, plain.isName.notUp]
  have above : path.parent? = some "" := by simp [parent?, last, plain.named]
  rw [backupPath, withFileName, named, above]
  simp [child, backupName]

end Path.IsPlain

namespace Volume

variable {volume left : Volume} {path target : Path} {time : Timestamp} {step : Step}
  {content : ByteArray} {location : Location} {error : Error}

/-- A disk with a file in the directory that paths start in, which is the root, and without
temporary files.  It refuses to make files durable or to load them, if anything. -/
structure HoldsFile (volume : Volume) (path : Path) (content : ByteArray) : Prop where
  plain : path.IsPlain
  root : volume.workingDirectory = []
  sound : ∀ step ∉ [Step.sync, .read], volume.refusal step = none
  free : volume.entry? [temporaryName 0] = none
  stands : volume.entry? [path] = some (.file content)

theorem resolve_of_plain (root : volume.workingDirectory = []) (plain : path.IsPlain) :
    volume.resolve path = volume.follow true linkLimit [] [path] := by
  have origin : volume.origin path = [] := by
    simp [Volume.origin, plain.not_isAbsolute, root]
  have cut : parts path = [] ++ [path] := plain.parts_eq
  apply resolve_of_walk plain.checkPath_eq cut
  rw [origin]
  exact .arrived

theorem copyTarget?_of_plain (root : volume.workingDirectory = []) (plain : path.IsPlain)
    (here : volume.entry? [path] = none ∨ ∃ content, volume.entry? [path] = some (.file content)) :
    volume.copyTarget? path = some [path] := by
  have resolved := resolve_of_plain root plain
  rcases here with free | ⟨content, file⟩
  · rw [follow_free plain.isName free] at resolved
    simp [copyTarget?, resolved]
  · rw [follow_file plain.isName file] at resolved
    simp [copyTarget?, resolved, file]

theorem copyTarget?_of_link (root : volume.workingDirectory = []) (plain : path.IsPlain)
    (link : volume.entry? [path] = some (.link target)) (leads : target.IsPlain)
    (file : volume.entry? [target] = some (.file content)) :
    volume.copyTarget? path = some [target] := by
  have start : linkStart [] target = [] := by
    unfold linkStart
    split <;> rfl
  have followed : volume.follow true linkLimit [] [path] = .ok (.found [target]) := by
    change volume.follow true (39 + 1) [] [path] = _
    rw [follow_link plain.isName link leads.named, start, leads.parts_eq, List.append_nil]
    exact follow_file leads.isName file
  have resolved := (resolve_of_plain root plain).trans followed
  simp [copyTarget?, resolved, file]

namespace HoldsFile

theorem path_ne_temporary (holds : volume.HoldsFile path content) :
    [path] ≠ [temporaryName 0] := by
  intro same
  have stands := holds.stands
  rw [same, holds.free] at stands
  cases stands

theorem resolve_eq (holds : volume.HoldsFile path content) :
    volume.resolve path = .ok (.found [path]) := by
  rw [resolve_of_plain holds.root holds.plain]
  exact follow_file holds.plain.isName holds.stands

theorem at?_eq (holds : volume.HoldsFile path content) :
    volume.at? path = some (.file content) :=
  at?_eq_some_iff.mpr ⟨_, holds.resolve_eq, holds.stands⟩

theorem read_eq (holds : volume.HoldsFile path content) (allowed : volume.refusal step = none) :
    volume.read path step = .ok content :=
  read_eq_ok_iff.mpr ⟨allowed, holds.at?_eq⟩

theorem put {entry : Entry} (holds : volume.HoldsFile path content)
    (notTemporary : location ≠ [temporaryName 0]) (notFile : location ≠ [path]) :
    (volume.put location entry).HoldsFile path content where
  plain := holds.plain
  root := holds.root
  sound := holds.sound
  free := by rw [entry?_put_of_ne notTemporary.symm, holds.free]
  stands := by rw [entry?_put_of_ne notFile.symm, holds.stands]

theorem put_self (holds : volume.HoldsFile path content) (new : ByteArray) :
    (volume.put [path] (.file new)).HoldsFile path new where
  plain := holds.plain
  root := holds.root
  sound := holds.sound
  free := by rw [entry?_put_of_ne holds.path_ne_temporary.symm, holds.free]
  stands := entry?_put_self (by simp)

theorem moveOnto_eq {new : ByteArray} (holds : volume.HoldsFile path content) :
    (volume.put [temporaryName 0] (.file new)).moveOnto [temporaryName 0] path =
      .ok (volume.put [path] (.file new)) := by
  generalize filled : volume.put [temporaryName 0] (.file new) = other
  have origin : other.origin path = [] := by
    rw [← filled, Volume.origin, holds.plain.not_isAbsolute]
    exact holds.root
  have allowed : other.refusal .rename = none := by
    rw [← filled]
    exact holds.sound .rename (by decide)
  have written : other.entry? [temporaryName 0] = some (.file new) := by
    rw [← filled]
    exact entry?_put_self (by simp)
  have stands : other.entry? [path] = some (.file content) := by
    rw [← filled, entry?_put_of_ne holds.path_ne_temporary, holds.stands]
  have cleared : other.erase [temporaryName 0] = volume := by
    rw [← filled, erase_put_self, erase_eq_self holds.free]
  have placed : place [] path = .ok [path] := if_neg holds.plain.isName.short
  unfold moveOnto
  simp only [holds.plain.checkPath_eq, holds.plain.lastPart_eq,
    resolveDirectory_root origin (List.forall_mem_nil _), placed, holds.plain.not_endsWith_slash,
    written, stands, allow, allowed, cleared, bind, Except.bind, pure, Except.pure]
  rfl

theorem createTemporary_eq (holds : volume.HoldsFile path content) :
    volume.createTemporary path.directory =
      .ok ([temporaryName 0], volume.put [temporaryName 0] (.file .empty)) := by
  have here : parts "." = ["."] := by decide +kernel
  have sound : checkPath (Path.child "." (temporaryName 0)) = .ok () := by decide +kernel
  have origin : volume.origin "." = [] := holds.root
  have root : volume.resolveDirectory "." ["."] = .ok [] := resolveDirectory_root origin (by simp)
  have first : volume.freeTemporary [] (volume.entries.length + 1) 0 = some [temporaryName 0] :=
    if_pos (Option.isNone_iff_eq_none.mpr holds.free)
  have allowed : volume.allow .createTemporary = .ok () :=
    allow_eq_ok_iff.mpr (holds.sound .createTemporary (by decide))
  simp only [createTemporary, holds.plain.directory_eq, sound, here, root, allowed, first, bind,
    Except.bind, pure, Except.pure]

theorem fill_eq (holds : volume.HoldsFile path content) (new : ByteArray) :
    (volume.put [temporaryName 0] (.file .empty)).fill [temporaryName 0] new =
      (.ok (), volume.put [temporaryName 0] (.file new)) := by
  have allowed : (volume.put [temporaryName 0] (.file .empty)).refusal .fill = none :=
    holds.sound .fill (by decide)
  rw [fill, allow_eq_ok_iff.mpr allowed, carry_of_allowed allowed, put_put_self]

theorem replaceFile_eq (holds : volume.HoldsFile path content)
    (durable : volume.refusal .sync = none) (new : ByteArray) :
    volume.replaceFile path new = (.ok (), volume.put [path] (.file new)) := by
  have synced : (volume.put [temporaryName 0] (.file new)).allow .sync = .ok () :=
    allow_eq_ok_iff.mpr durable
  exact replaceFile_of_stages holds.createTemporary_eq (holds.fill_eq new) synced holds.moveOnto_eq

theorem backUp_eq (holds : volume.HoldsFile path content)
    (target : volume.copyTarget? (backupPath path time) = some location)
    (notTemporary : location ≠ [temporaryName 0]) (notFile : location ≠ [path]) :
    volume.backUp path time = volume.put location (.file content) := by
  have allowed : volume.refusal .copy = none := holds.sound .copy (by decide)
  have written : (volume.put location (.file .empty)).refusal .copyContent = none :=
    holds.sound .copyContent (by decide)
  have emptied : Volume.at? (volume.put location (.file .empty)) path = some (.file content) :=
    (holds.put notTemporary notFile).at?_eq
  simp only [backUp, hasAt, holds.at?_eq, Option.isSome_some, if_true, copyFile, target, allowed,
    emptied, carry_of_allowed written, put_put_self]

theorem replaceWithBackup_eq (holds : volume.HoldsFile path content)
    (durable : volume.refusal .sync = none) (new : ByteArray)
    (target : volume.copyTarget? (backupPath path time) = some location)
    (notTemporary : location ≠ [temporaryName 0]) (notFile : location ≠ [path]) :
    volume.replaceWithBackup path new time =
      (.ok (), (volume.put location (.file content)).put [path] (.file new)) := by
  rw [replaceWithBackup, holds.backUp_eq target notTemporary notFile]
  exact (holds.put notTemporary notFile).replaceFile_eq durable new

end HoldsFile

/-- A disk with a bypass policy and nothing else. -/
def ofBypass (content : ByteArray) : Volume :=
  blank.put ["bypass.conf"] (.file content)

theorem wellFormed_ofBypass (content : ByteArray) : (ofBypass content).WellFormed := by
  have root : blank.entry? [] = some .directory := rfl
  exact wellFormed_blank.put root nofun

theorem isPlain_bypass : Path.IsPlain "bypass.conf" :=
  ⟨⟨by decide, by decide, by decide⟩, by decide, by decide, by decide⟩

theorem holdsFile_ofBypass (content : ByteArray) :
    (ofBypass content).HoldsFile "bypass.conf" content := by
  have named : temporaryName 0 = ".rulegate.000000.tmp" := by decide +kernel
  exact ⟨isPlain_bypass, rfl, fun _ _ => rfl, by rw [named]; rfl, rfl⟩

theorem at?_ofBypass (content : ByteArray) :
    (ofBypass content).at? "bypass.conf" = some (.file content) :=
  (holdsFile_ofBypass content).at?_eq

theorem read_ofBypass (content : ByteArray) (step : Step) :
    (ofBypass content).read "bypass.conf" step = .ok content :=
  (holdsFile_ofBypass content).read_eq rfl

/-- The backup of a bypass policy goes to its own name, unless that is a directory or a link. -/
theorem copyTarget?_bypass {name : String} (root : volume.workingDirectory = [])
    (named : backupName "bypass.conf" time = name) (plain : Path.IsPlain name)
    (here : volume.entry? [name] = none ∨ ∃ content, volume.entry? [name] = some (.file content)) :
    volume.copyTarget? (backupPath "bypass.conf" time) = some [name] := by
  rw [isPlain_bypass.backupPath_eq, named]
  exact copyTarget?_of_plain root plain here

theorem isPlain_backup : Path.IsPlain "bypass.conf.00000000-000000.bak" :=
  ⟨⟨by decide, by decide, by decide⟩, by decide, by decide, by decide⟩

theorem copyTarget?_default (root : volume.workingDirectory = [])
    (here : volume.entry? ["bypass.conf.00000000-000000.bak"] = none ∨
      ∃ content, volume.entry? ["bypass.conf.00000000-000000.bak"] = some (.file content)) :
    volume.copyTarget? (backupPath "bypass.conf" default) =
      some ["bypass.conf.00000000-000000.bak"] := by
  have named : backupName "bypass.conf" default = "bypass.conf.00000000-000000.bak" := by
    decide +kernel
  exact copyTarget?_bypass root named isPlain_backup here

end Volume

end Gatehouse.Disk
