import Gatehouse.Disk.Volume

/-!
# Places on a volume

This file says what a change of one place leaves at every place, and gives the
two views of a volume that the theory of paths is stated in.

A volume is well formed if relative paths start in a directory, whatever stands
anywhere stands in a directory, and a fault met in reading is not reported as a
missing file.  Every disk is like that, but the list of entries and the refusals
alone do not say so.

A path leads on through directories and links only.  `way?` therefore forgets
the files: two volumes with the same ways lead every path through the same
directories, whatever the files in them hold and whether they are there.
-/

namespace Gatehouse.Disk

/-- A path leads on through what stands at a place. -/
def Entry.leadsOn : Entry → Bool
  | .file _ => false
  | .directory => true
  | .link _ => true

namespace Volume

variable {volume : Volume} {location place : Location} {entry : Entry}

@[simp]
theorem entry?_root (volume : Volume) : volume.entry? [] = some .directory :=
  rfl

theorem ne_nil_of_ne_directory (notDirectory : volume.entry? location ≠ some .directory) :
    location ≠ [] := by
  rintro rfl
  exact notDirectory volume.entry?_root

theorem ne_nil_of_file {content : ByteArray}
    (file : volume.entry? location = some (.file content)) : location ≠ [] := by
  rintro rfl
  simp at file

theorem lookup_filter_key_ne (entries : List (Location × Entry)) (location place : Location) :
    (entries.filter fun pair => pair.1 ≠ location).lookup place =
      if place = location then none else entries.lookup place := by
  induction entries with
  | nil => simp
  | cons pair rest ih =>
      rcases pair with ⟨key, value⟩
      by_cases keyGone : key = location
      · subst keyGone
        rw [List.filter_cons_of_neg (by simp), ih, List.lookup_cons]
        by_cases same : place = key
        · simp [same]
        · simp [same, beq_eq_false_iff_ne.mpr same]
      · rw [List.filter_cons_of_pos (by simpa using keyGone), List.lookup_cons, List.lookup_cons,
          ih]
        by_cases same : place = key
        · simp [same, keyGone]
        · simp [beq_eq_false_iff_ne.mpr same]

theorem entry?_erase_of_ne (distinct : place ≠ location) :
    Volume.entry? (volume.erase location) place = volume.entry? place := by
  simp only [erase, entry?, lookup_filter_key_ne, if_neg distinct]

theorem entry?_put_self (named : location ≠ []) :
    Volume.entry? (volume.put location entry) location = some entry := by
  simp [put, entry?, named]

theorem entry?_put_of_ne (distinct : place ≠ location) :
    Volume.entry? (volume.put location entry) place = volume.entry? place := by
  have erased : Volume.entry? (volume.erase location) place = volume.entry? place :=
    entry?_erase_of_ne distinct
  rw [← erased]
  simp [put, entry?, List.lookup_cons, beq_eq_false_iff_ne.mpr distinct]

theorem erase_eq_self (free : volume.entry? location = none) :
    volume.erase location = volume := by
  have named : location ≠ [] := by
    rintro rfl
    simp at free
  have unlisted : volume.entries.lookup location = none := by
    simpa [named, entry?] using free
  have kept : (volume.entries.filter fun pair => pair.1 ≠ location) = volume.entries := by
    apply List.filter_eq_self.mpr
    intro pair pairMem
    have differs : ¬location = pair.1 := by
      simpa using List.lookup_eq_none_iff.mp unlisted pair pairMem
    simpa using Ne.symm differs
  unfold erase
  rw [kept]

@[simp]
theorem erase_put_self : (volume.put location entry).erase location = volume.erase location := by
  simp [erase, put, List.filter_filter]

@[simp]
theorem put_put_self {first second : Entry} :
    (volume.put location first).put location second = volume.put location second := by
  simp [put, erase, List.filter_filter]

/-- The facts about every disk that a volume does not carry by itself. -/
structure WellFormed (volume : Volume) : Prop where
  /-- Relative paths start in a directory. -/
  start : volume.entry? volume.workingDirectory = some .directory
  /-- Whatever stands anywhere stands in a directory. -/
  above : ∀ directory name, volume.entry? (directory ++ [name]) ≠ none →
    volume.entry? directory = some .directory
  /-- A fault met in looking at a file is not reported as a missing file. -/
  faults : volume.refusal .look ≠ some .notFound

/-- A disk with nothing on it that refuses nothing. -/
def blank : Volume :=
  { entries := [], workingDirectory := [] }

theorem wellFormed_blank : blank.WellFormed := by
  refine ⟨rfl, ?_, by simp [blank]⟩
  intro directory name present
  simp [blank, entry?] at present

theorem WellFormed.dropLast (wellFormed : volume.WellFormed)
    (directory : volume.entry? location = some .directory) :
    volume.entry? location.dropLast = some .directory := by
  rcases location.eq_nil_or_concat with rfl | ⟨parent, name, rfl⟩
  · simp
  · rw [List.concat_eq_append] at directory ⊢
    rw [List.dropLast_concat]
    exact wellFormed.above parent name (by simp [directory])

theorem WellFormed.exists_parent_of_file {content : ByteArray}
    (wellFormed : volume.WellFormed) (file : volume.entry? location = some (.file content)) :
    ∃ parent name, location = parent ++ [name] ∧ volume.entry? parent = some .directory := by
  rcases location.eq_nil_or_concat with rfl | ⟨parent, name, rfl⟩
  · simp at file
  · rw [List.concat_eq_append] at file ⊢
    exact ⟨parent, name, rfl, wellFormed.above parent name (by simp [file])⟩

theorem WellFormed.put {parent : Location} {name : String} (wellFormed : volume.WellFormed)
    (directory : volume.entry? parent = some .directory)
    (notDirectory : volume.entry? (parent ++ [name]) ≠ some .directory) :
    (volume.put (parent ++ [name]) entry).WellFormed := by
  have keeps : ∀ place, volume.entry? place = some .directory →
      Volume.entry? (volume.put (parent ++ [name]) entry) place = some .directory := by
    intro place isDirectory
    rw [entry?_put_of_ne (by rintro rfl; exact notDirectory isDirectory)]
    exact isDirectory
  refine ⟨keeps _ wellFormed.start, ?_, wellFormed.faults⟩
  intro above below present
  apply keeps
  by_cases same : above ++ [below] = parent ++ [name]
  · rw [(List.append_inj' same rfl).1]
    exact directory
  · rw [entry?_put_of_ne same] at present
    exact wellFormed.above above below present

/-- What a path can lead on through at a place. -/
def way? (volume : Volume) (location : Location) : Option Entry :=
  (volume.entry? location).filter Entry.leadsOn

theorem way?_eq_some_iff :
    volume.way? location = some entry ↔ volume.entry? location = some entry ∧ entry.leadsOn := by
  simp [way?, Option.filter_eq_some_iff]

theorem way?_eq_none (plain : ∀ entry, volume.entry? location = some entry → ¬entry.leadsOn) :
    volume.way? location = none := by
  simpa [way?, Option.filter_eq_none_iff] using plain

theorem way?_file {content : ByteArray} (file : volume.entry? location = some (.file content)) :
    volume.way? location = none := by
  simp [way?, file, Option.filter, Entry.leadsOn]

theorem way?_free (free : volume.entry? location = none) : volume.way? location = none := by
  simp [way?, free]

theorem way?_put_of_ne (distinct : place ≠ location) :
    (volume.put location entry).way? place = volume.way? place := by
  simp only [way?, entry?_put_of_ne distinct]

/-- A file where no path leads on leaves all ways as they are. -/
theorem way?_put_file {content : ByteArray} (named : location ≠ [])
    (closed : volume.way? location = none) (place : Location) :
    (volume.put location (.file content)).way? place = volume.way? place := by
  by_cases same : place = location
  · subst same
    rw [closed, way?_file (entry?_put_self named)]
  · exact way?_put_of_ne same

end Volume

end Gatehouse.Disk
