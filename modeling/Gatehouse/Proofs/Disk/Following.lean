import Gatehouse.Proofs.Disk.Places

/-!
# Following paths by rules

`follow` recurses on a budget of links and on the parts that are left, and most
of its branches are failures.  `Follows` states its successes by rules, one for
each thing that can stand where a part is looked up, and is proved to agree with
it (`follows_of_follow`, `Follows.follow_eq`).  The facts about where paths end
are inductions on the rules.

A volume grows if files are added or overwritten and nothing else happens.  A
path that ends at something still ends there on a volume that has grown.
-/

namespace Gatehouse.Disk.Volume

variable {volume other : Volume} {links : Nat} {current location : Location}
  {part : String} {parts rest : List String} {final : Target}

/-- Where the target of a link in a directory is followed from. -/
def linkStart (current : Location) (target : Path) : Location :=
  if target.isAbsolute then [] else current

/-- A part that is looked up in a directory, and may be. -/
structure IsName (part : String) : Prop where
  notDot : part ≠ "."
  notUp : part ≠ ".."
  short : ¬nameLimit < part.utf8ByteSize

@[simp]
theorem follow_nil (volume : Volume) (links : Nat) (current : Location) :
    volume.follow true links current [] = .ok (.found current) := by
  rw [follow]

@[simp]
theorem follow_stay (volume : Volume) (links : Nat) (current : Location) (rest : List String) :
    volume.follow true links current ("." :: rest) = volume.follow true links current rest := by
  rw [follow]
  simp

@[simp]
theorem follow_up (volume : Volume) (links : Nat) (current : Location) (rest : List String) :
    volume.follow true links current (".." :: rest) =
      volume.follow true links current.dropLast rest := by
  rw [follow]
  simp

theorem follow_file {content : ByteArray} (isName : IsName part)
    (file : volume.entry? (current ++ [part]) = some (.file content)) :
    volume.follow true links current [part] = .ok (.found (current ++ [part])) := by
  rw [follow]
  simp [isName.notDot, isName.notUp, isName.short, file]

theorem follow_free (isName : IsName part) (free : volume.entry? (current ++ [part]) = none) :
    volume.follow true links current [part] = .ok (.free (current ++ [part])) := by
  rw [follow]
  simp [isName.notDot, isName.notUp, isName.short, free]

theorem follow_directory (isName : IsName part)
    (directory : volume.entry? (current ++ [part]) = some .directory) :
    volume.follow true links current (part :: rest) =
      volume.follow true links (current ++ [part]) rest := by
  rw [follow]
  simp [isName.notDot, isName.notUp, isName.short, directory]

theorem follow_link_zero {target : Path} (isName : IsName part)
    (link : volume.entry? (current ++ [part]) = some (.link target)) :
    volume.follow true 0 current (part :: rest) = .error .linkLoop := by
  rw [follow]
  simp [isName.notDot, isName.notUp, isName.short, link]

theorem follow_link {target : Path} (isName : IsName part)
    (link : volume.entry? (current ++ [part]) = some (.link target)) (named : target ≠ "") :
    volume.follow true (links + 1) current (part :: rest) =
      volume.follow true links (linkStart current target) (Volume.parts target ++ rest) := by
  rw [follow]
  simp [isName.notDot, isName.notUp, isName.short, link, named, linkStart]

/-- The parts of a path lead from a place to a target, with a budget of links. -/
inductive Follows (volume : Volume) : Nat → Location → List String → Target → Prop
  | arrived {links : Nat} {current : Location} :
      Follows volume links current [] (.found current)
  | stay {links : Nat} {current : Location} {rest : List String} {final : Target}
      (onward : Follows volume links current rest final) :
      Follows volume links current ("." :: rest) final
  | up {links : Nat} {current : Location} {rest : List String} {final : Target}
      (onward : Follows volume links current.dropLast rest final) :
      Follows volume links current (".." :: rest) final
  | atFile {links : Nat} {current : Location} {part : String} {content : ByteArray}
      (isName : IsName part)
      (file : volume.entry? (current ++ [part]) = some (.file content)) :
      Follows volume links current [part] (.found (current ++ [part]))
  | atFree {links : Nat} {current : Location} {part : String} (isName : IsName part)
      (free : volume.entry? (current ++ [part]) = none) :
      Follows volume links current [part] (.free (current ++ [part]))
  | down {links : Nat} {current : Location} {part : String} {rest : List String}
      {final : Target} (isName : IsName part)
      (directory : volume.entry? (current ++ [part]) = some .directory)
      (onward : Follows volume links (current ++ [part]) rest final) :
      Follows volume links current (part :: rest) final
  | through {links : Nat} {current : Location} {part : String} {rest : List String}
      {target : Path} {final : Target} (isName : IsName part)
      (link : volume.entry? (current ++ [part]) = some (.link target)) (named : target ≠ "")
      (onward : Follows volume links (linkStart current target) (Volume.parts target ++ rest)
        final) :
      Follows volume (links + 1) current (part :: rest) final

theorem follows_of_follow (followed : volume.follow true links current parts = .ok final) :
    volume.Follows links current parts final := by
  fun_induction follow volume true links current parts with
  | case1 links current =>
      cases followed
      exact .arrived
  | case2 links current rest ih => exact .stay (ih followed)
  | case3 links current rest _ ih => exact .up (ih followed)
  | case5 links current part notDot notUp short next free =>
      cases followed
      exact .atFree ⟨notDot, notUp, short⟩ free
  | case7 links current part notDot notUp short next content file =>
      cases followed
      exact .atFile ⟨notDot, notUp, short⟩ file
  | case9 links current part rest notDot notUp short next directory ih =>
      exact .down ⟨notDot, notUp, short⟩ directory (ih followed)
  | case10 _ _ _ _ _ _ _ _ _ _ kept => exact absurd rfl kept.2
  | case13 current part rest notDot notUp short next target link goesOn links named ih =>
      refine .through ⟨notDot, notUp, short⟩ link named ?_
      simpa [linkStart] using ih (by simpa using followed)
  | _ => cases followed

theorem Follows.follow_eq (follows : volume.Follows links current parts final) :
    volume.follow true links current parts = .ok final := by
  induction follows with
  | arrived => simp
  | stay onward ih => simpa using ih
  | up onward ih => simpa using ih
  | atFile isName file => exact follow_file isName file
  | atFree isName free => exact follow_free isName free
  | down isName directory onward ih =>
      rw [follow_directory isName directory]
      exact ih
  | through isName link named onward ih =>
      rw [follow_link isName link named]
      exact ih

theorem entry?_linkStart (target : Path)
    (directory : volume.entry? current = some .directory) :
    volume.entry? (linkStart current target) = some .directory := by
  unfold linkStart
  split
  · exact volume.entry?_root
  · exact directory

theorem WellFormed.entry?_origin (wellFormed : volume.WellFormed) (path : Path) :
    volume.entry? (volume.origin path) = some .directory := by
  unfold origin
  split
  · exact volume.entry?_root
  · exact wellFormed.start

/-- A target is a directory, a file, or a free name in a directory. -/
def IsEnd (volume : Volume) : Target → Prop
  | .found location =>
      volume.entry? location = some .directory ∨
        ∃ content, volume.entry? location = some (.file content)
  | .free location =>
      volume.entry? location = none ∧
        ∃ parent name, location = parent ++ [name] ∧ volume.entry? parent = some .directory

theorem Follows.isEnd (follows : volume.Follows links current parts final)
    (wellFormed : volume.WellFormed) (directory : volume.entry? current = some .directory) :
    volume.IsEnd final := by
  induction follows with
  | arrived => exact .inl directory
  | stay onward ih => exact ih directory
  | up onward ih => exact ih (wellFormed.dropLast directory)
  | atFile isName file => exact .inr ⟨_, file⟩
  | atFree isName free => exact ⟨free, _, _, rfl, directory⟩
  | down isName deeper onward ih => exact ih deeper
  | through isName link named onward ih => exact ih (entry?_linkStart _ directory)

/-- A volume is another one with files added or overwritten and nothing else changed. -/
structure Grows (volume other : Volume) : Prop where
  workingDirectory : other.workingDirectory = volume.workingDirectory
  refusal : other.refusal = volume.refusal
  entry : ∀ location, other.entry? location = volume.entry? location ∨
    volume.way? location = none ∧ ∃ content, other.entry? location = some (.file content)

theorem Grows.refl (volume : Volume) : volume.Grows volume :=
  ⟨rfl, rfl, fun _ => .inl rfl⟩

theorem grows_put_file {content : ByteArray} (named : location ≠ [])
    (closed : volume.way? location = none) :
    volume.Grows (volume.put location (.file content)) := by
  refine ⟨rfl, rfl, ?_⟩
  intro place
  by_cases same : place = location
  · subst same
    exact .inr ⟨closed, content, entry?_put_self named⟩
  · exact .inl (entry?_put_of_ne same)

theorem Grows.entry?_of_way {entry : Entry} (grows : volume.Grows other)
    (stands : volume.entry? location = some entry) (leads : entry.leadsOn) :
    other.entry? location = some entry := by
  rcases grows.entry location with same | ⟨closed, -, -⟩
  · rw [same, stands]
  · rw [way?_eq_some_iff.mpr ⟨stands, leads⟩] at closed
    cases closed

theorem Grows.entry?_file {content : ByteArray} (grows : volume.Grows other)
    (file : volume.entry? location = some (.file content)) :
    ∃ content, other.entry? location = some (.file content) := by
  rcases grows.entry location with same | ⟨-, overwritten⟩
  · exact ⟨content, by rw [same, file]⟩
  · exact overwritten

/-- A path that ends at something still ends there on a volume where every directory and link
stands as it did and a file stands wherever one stood. -/
theorem Follows.carry (follows : volume.Follows links current parts (.found location))
    (ways : ∀ {place : Location} {entry : Entry}, volume.entry? place = some entry →
      entry.leadsOn → other.entry? place = some entry)
    (files : ∀ {place : Location} {content : ByteArray},
      volume.entry? place = some (.file content) →
        ∃ content, other.entry? place = some (.file content)) :
    other.Follows links current parts (.found location) := by
  generalize ending : Target.found location = final at follows ⊢
  induction follows with
  | arrived => exact .arrived
  | stay onward ih => exact .stay (ih ending)
  | up onward ih => exact .up (ih ending)
  | atFile isName file =>
      rcases files file with ⟨content, present⟩
      exact .atFile isName present
  | atFree isName free => cases ending
  | down isName directory onward ih => exact .down isName (ways directory rfl) (ih ending)
  | through isName link named onward ih => exact .through isName (ways link rfl) named (ih ending)

/-- A path that ends at something still ends there when files are added or overwritten. -/
theorem Follows.grow (follows : volume.Follows links current parts (.found location))
    (grows : volume.Grows other) : other.Follows links current parts (.found location) :=
  follows.carry grows.entry?_of_way grows.entry?_file

end Gatehouse.Disk.Volume
