import Gatehouse.Proofs.Disk.Replacement

/-!
# Making what is missing

A missing file is made empty, with the directories above it.  Nothing that stands on the volume
changes, whether the making succeeds or breaks off half way, and what is new is a directory or an
empty file at the place that one of the paths leads to.

Since everything stays, a path that ends at something goes on ending there, and a file that could
be read reads as it did.
-/

namespace Gatehouse.Disk

/-- A path is another one or one of those above it. -/
inductive Path.IsAbove : Path → Path → Prop
  | here {path : Path} : IsAbove path path
  | parent {top above path : Path} (next : path.parent? = some above)
      (further : IsAbove top above) : IsAbove top path

namespace Volume

variable {volume other left made : Volume} {path : Path} {location : Location} {entry : Entry}
  {content : ByteArray} {directories files : Path → Prop}

/-- Whatever stands on a volume stands on another as it was. -/
structure StaysOn (volume other : Volume) : Prop where
  workingDirectory : other.workingDirectory = volume.workingDirectory
  refusal : other.refusal = volume.refusal
  entry : ∀ {location entry}, volume.entry? location = some entry →
    other.entry? location = some entry

theorem StaysOn.refl (volume : Volume) : volume.StaysOn volume :=
  ⟨rfl, rfl, id⟩

theorem StaysOn.trans {last : Volume} (first : volume.StaysOn other) (second : other.StaysOn last) :
    volume.StaysOn last where
  workingDirectory := second.workingDirectory.trans first.workingDirectory
  refusal := second.refusal.trans first.refusal
  entry stands := second.entry (first.entry stands)

theorem staysOn_put (free : volume.entry? location = none) :
    volume.StaysOn (volume.put location entry) where
  workingDirectory := rfl
  refusal := rfl
  entry := by
    intro place standing stands
    rw [entry?_put_of_ne, stands]
    rintro rfl
    rw [free] at stands
    cases stands

namespace StaysOn

theorem origin_eq (stays : volume.StaysOn other) (path : Path) :
    other.origin path = volume.origin path := by
  rw [origin, origin, stays.workingDirectory]

theorem resolve_eq (stays : volume.StaysOn other)
    (resolved : volume.resolve path = .ok (.found location)) :
    other.resolve path = .ok (.found location) := by
  rcases resolve_eq_ok_iff.mp resolved with ⟨checked, followed⟩
  apply resolve_eq_ok_iff.mpr ⟨checked, _⟩
  rw [stays.origin_eq]
  refine ((follows_of_follow followed).carry (fun stands _ => stays.entry stands) ?_).follow_eq
  exact fun file => ⟨_, stays.entry file⟩

theorem at?_eq (stays : volume.StaysOn other) (here : volume.at? path = some entry) :
    other.at? path = some entry := by
  rcases at?_eq_some_iff.mp here with ⟨location, resolved, stands⟩
  exact at?_eq_some_iff.mpr ⟨location, stays.resolve_eq resolved, stays.entry stands⟩

theorem read_eq (stays : volume.StaysOn other) (read : volume.read path = .ok content) :
    other.read path = .ok content := by
  rcases read_eq_ok_iff.mp read with ⟨allowed, file⟩
  exact read_eq_ok_iff.mpr ⟨(congrFun stays.refusal .read).trans allowed, stays.at?_eq file⟩

end StaysOn

/-- What stands at a place is what some paths ask for: a directory, or an empty file. -/
inductive IsAsked (volume : Volume) (directories files : Path → Prop) (location : Location) :
    Entry → Prop
  | directory {path : Path} (asks : directories path)
      (leads : volume.resolve path = .ok (.found location)) :
      IsAsked volume directories files location .directory
  | file {path : Path} (asks : files path)
      (leads : volume.resolve path = .ok (.found location)) :
      IsAsked volume directories files location (.file .empty)

/-- A volume is another one with directories and empty files made for some paths. -/
structure Supplied (directories files : Path → Prop) (volume left : Volume) : Prop
    extends StaysOn volume left where
  asked : ∀ {location entry}, volume.entry? location = none → left.entry? location = some entry →
    left.IsAsked directories files location entry

theorem IsAsked.stays (isAsked : volume.IsAsked directories files location entry)
    (stays : volume.StaysOn other) : other.IsAsked directories files location entry := by
  cases isAsked with
  | directory asks leads => exact .directory asks (stays.resolve_eq leads)
  | file asks leads => exact .file asks (stays.resolve_eq leads)

theorem IsAsked.mono {moreDirectories moreFiles : Path → Prop}
    (isAsked : volume.IsAsked directories files location entry)
    (within : ∀ path, directories path → moreDirectories path)
    (among : ∀ path, files path → moreFiles path) :
    volume.IsAsked moreDirectories moreFiles location entry := by
  cases isAsked with
  | directory asks leads => exact .directory (within _ asks) leads
  | file asks leads => exact .file (among _ asks) leads

namespace Supplied

theorem refl (volume : Volume) : Supplied directories files volume volume where
  toStaysOn := .refl volume
  asked free stands := by
    rw [free] at stands
    cases stands

theorem trans {last : Volume} (first : Supplied directories files volume left)
    (second : Supplied directories files left last) : Supplied directories files volume last where
  toStaysOn := first.toStaysOn.trans second.toStaysOn
  asked := by
    intro location entry free stands
    cases between : left.entry? location with
    | none => exact second.asked between stands
    | some standing =>
        have same := (second.entry between).symm.trans stands
        cases same
        exact (first.asked free between).stays second.toStaysOn

theorem mono {moreDirectories moreFiles : Path → Prop}
    (supplied : Supplied directories files volume left)
    (within : ∀ path, directories path → moreDirectories path)
    (among : ∀ path, files path → moreFiles path) :
    Supplied moreDirectories moreFiles volume left where
  toStaysOn := supplied.toStaysOn
  asked free stands := (supplied.asked free stands).mono within among

theorem put (free : volume.entry? location = none)
    (asked : (volume.put location entry).IsAsked directories files location entry) :
    Supplied directories files volume (volume.put location entry) where
  toStaysOn := staysOn_put free
  asked := by
    intro place standing nothing stands
    have notDirectory : volume.entry? location ≠ some .directory := by simp [free]
    by_cases same : place = location
    · subst same
      rw [entry?_put_self (ne_nil_of_ne_directory notDirectory)] at stands
      cases stands
      exact asked
    · rw [entry?_put_of_ne same, nothing] at stands
      cases stands

end Supplied

/-- A path ends with a name that is free in the directory where it is looked up. -/
inductive EndsFree (volume : Volume) (path : Path) : Location → Prop
  | intro {above : List String} {name : String} {directory : Location}
      (checked : checkPath path = .ok ()) (last : lastPart path = (above, some name))
      (isName : IsName name) (leads : volume.resolveDirectory path above = .ok directory)
      (free : volume.entry? (directory ++ [name]) = none) :
      EndsFree volume path (directory ++ [name])

theorem EndsFree.free (endsFree : volume.EndsFree path location) :
    volume.entry? location = none := by
  cases endsFree with
  | intro checked last isName leads free => exact free

/-- The path leads to a directory that is put at its free name, and to a file unless the path ends
with a slash. -/
theorem EndsFree.resolve_put (endsFree : volume.EndsFree path location)
    (suits : entry = .directory ∨ endsWithSlash path = false ∧ entry = .file .empty) :
    (volume.put location entry).resolve path = .ok (.found location) := by
  cases endsFree with
  | @intro above name directory checked last isName leads free =>
      have stands : Volume.entry? (volume.put (directory ++ [name]) entry) (directory ++ [name]) =
          some entry := entry?_put_self (by simp)
      have stays : volume.StaysOn (volume.put (directory ++ [name]) entry) := staysOn_put free
      rcases resolveDirectory_iff_walk.mp leads with ⟨links, walk⟩
      rw [← stays.origin_eq] at walk
      rw [resolve_of_walk checked (parts_eq_of_lastPart last)
        (walk.carry fun stands _ => stays.entry stands)]
      rcases suits with rfl | ⟨noSlash, rfl⟩
      · rw [follow_directory isName stands]
        split <;> simp
      · rw [noSlash]
        exact follow_file isName stands

theorem endsFree_of_placed {above : List String} {name : String} {directory : Location}
    {step : Step} (checked : checkPath path = .ok ()) (last : lastPart path = (above, some name))
    (leads : volume.resolveDirectory path above = .ok directory)
    (succeeded : (do
      let location ← place directory name
      if (volume.entry? location).isSome then throw .exists
      else
        volume.allow step
        return volume.put location entry) = Except.ok made) :
    ∃ location, volume.EndsFree path location ∧ made = volume.put location entry := by
  rcases exists_of_bind_eq_ok succeeded with ⟨location, placed, succeeded⟩
  rcases place_eq_ok_iff.mp placed with ⟨short, rfl⟩
  split at succeeded
  · cases succeeded
  · rename_i nothing
    rcases exists_of_bind_eq_ok succeeded with ⟨_, -, succeeded⟩
    cases succeeded
    rcases pieces_of_lastPart last with ⟨-, notDot, notUp⟩
    exact ⟨_, .intro checked last ⟨notDot, notUp, short⟩ leads (by simpa using nothing), rfl⟩

theorem endsFree_of_createDirectory (succeeded : volume.createDirectory path = .ok made) :
    ∃ location, volume.EndsFree path location ∧ made = volume.put location .directory := by
  unfold createDirectory at succeeded
  rcases exists_of_bind_eq_ok succeeded with ⟨_, checked, succeeded⟩
  rcases last : lastPart path with ⟨above, name⟩
  simp only [last] at succeeded
  rcases exists_of_bind_eq_ok succeeded with ⟨directory, leads, succeeded⟩
  rcases name with _ | name
  · cases succeeded
  · exact endsFree_of_placed checked last leads succeeded

theorem endsFree_of_createFile (succeeded : volume.createFile path = .ok made) :
    endsWithSlash path = false ∧
      ∃ location, volume.EndsFree path location ∧ made = volume.put location (.file .empty) := by
  unfold createFile at succeeded
  rcases exists_of_bind_eq_ok succeeded with ⟨_, checked, succeeded⟩
  rcases last : lastPart path with ⟨above, name⟩
  simp only [last] at succeeded
  rcases exists_of_bind_eq_ok succeeded with ⟨directory, leads, succeeded⟩
  rcases name with _ | name
  · cases succeeded
  · simp only at succeeded
    split at succeeded
    · cases succeeded
    · rename_i noSlash
      exact ⟨by simpa using noSlash, endsFree_of_placed checked last leads succeeded⟩

theorem supplied_createDirectory (asks : directories path)
    (succeeded : volume.createDirectory path = .ok made) :
    Supplied directories files volume made := by
  rcases endsFree_of_createDirectory succeeded with ⟨location, endsFree, rfl⟩
  exact .put endsFree.free (.directory asks (endsFree.resolve_put (.inl rfl)))

theorem supplied_createFile (asks : files path) (succeeded : volume.createFile path = .ok made) :
    Supplied directories files volume made := by
  rcases endsFree_of_createFile succeeded with ⟨noSlash, location, endsFree, rfl⟩
  exact .put endsFree.free (.file asks (endsFree.resolve_put (.inr ⟨noSlash, rfl⟩)))

/-- However far the making of a directory gets, it makes that directory and some above it. -/
theorem supplied_createDirectories (fuel : Nat) (volume : Volume) (path : Path) :
    Supplied (·.IsAbove path) files volume (createDirectories fuel volume path).2 := by
  induction fuel generalizing volume path with
  | zero => exact .refl volume
  | succ fuel ih =>
      unfold createDirectories
      split
      · exact .refl volume
      · split
        · rename_i made succeeded
          exact supplied_createDirectory .here succeeded
        · cases next : path.parent? with
          | none => exact .refl volume
          | some parent =>
              -- What was made above stays, whether the directory itself can be made then or not.
              have below := (ih volume parent).mono (fun _ => Path.IsAbove.parent next) fun _ => id
              rw [Option.map_some]
              generalize createDirectories fuel volume parent = outcome at below
              rcases outcome with ⟨error | _, above⟩
              · exact below
              · dsimp only
                split
                · rename_i made succeeded
                  exact below.trans (supplied_createDirectory .here succeeded)
                · exact below
        · exact .refl volume

/-- However far the making of a file gets, it makes that file and some directories above it. -/
theorem supplied_ensureFile (volume : Volume) (path : Path) :
    Supplied (·.IsAbove path.directory) (· = path) volume (volume.ensureFile path).2 := by
  unfold ensureFile
  split
  · exact .refl volume
  · have below : Supplied (·.IsAbove path.directory) (· = path) volume _ :=
      supplied_createDirectories (path.directory.length + 2) volume path.directory
    generalize createDirectories (path.directory.length + 2) volume path.directory = outcome
      at below
    rcases outcome with ⟨error | _, above⟩
    · exact below
    · dsimp only
      split
      · rename_i made succeeded
        exact below.trans (supplied_createFile rfl succeeded)
      · exact below
      · exact below

theorem ensureFile_of_at? (here : volume.at? path = some entry) :
    volume.ensureFile path = (.ok false, volume) := by
  simp [ensureFile, hasAt, here]

/-- Something stands where the first part of a path is looked up, if it is a name and the path ends
at something. -/
theorem Follows.first_stands {links : Nat} {current : Location} {part : String}
    {rest : List String} (follows : volume.Follows links current (part :: rest) (.found location))
    (notDot : part ≠ ".") (notUp : part ≠ "..") :
    IsName part ∧ ∃ entry, volume.entry? (current ++ [part]) = some entry := by
  cases follows with
  | stay onward => exact absurd rfl notDot
  | up onward => exact absurd rfl notUp
  | atFile isName file => exact ⟨isName, _, file⟩
  | down isName directory onward => exact ⟨isName, _, directory⟩
  | through isName link named onward => exact ⟨isName, _, link⟩

/-- Where a path ends at something, what stands above its last part has been walked. -/
theorem exists_walk_above (resolved : volume.resolve path = .ok (.found location)) :
    ∃ links directory,
      volume.Walk linkLimit (volume.origin path) (lastPart path).1 links directory := by
  have follows := follows_of_follow (resolve_eq_ok_iff.mp resolved).2
  unfold lastPart
  split
  · exact ⟨_, _, .arrived⟩
  · rename_i final others reversed
    unfold parts at follows
    rw [List.reverse_eq_cons_iff.mp reversed] at follows
    split at follows
    · rw [List.append_assoc] at follows
      exact Walk.exists_of_follows follows
    · exact Walk.exists_of_follows follows

/-- What is there is not made again, and nothing is missing above it. -/
theorem createDirectory_of_at? (here : volume.at? path = some entry) :
    volume.createDirectory path = .error .exists := by
  rcases at?_eq_some_iff.mp here with ⟨location, resolved, -⟩
  rcases resolve_eq_ok_iff.mp resolved with ⟨checked, followed⟩
  rcases exists_walk_above resolved with ⟨links, directory, walk⟩
  have leads := resolveDirectory_iff_walk.mpr ⟨links, walk⟩
  unfold createDirectory
  rcases last : lastPart path with ⟨above, _ | name⟩ <;> rw [last] at leads walk
  · simp [checked, leads, bind, Except.bind, throw, throwThe, MonadExceptOf.throw]
  · rw [parts_eq_of_lastPart last, walk.follow_append] at followed
    rcases pieces_of_lastPart last with ⟨-, notDot, notUp⟩
    rcases (follows_of_follow followed).first_stands notDot notUp with ⟨isName, entry, stands⟩
    have placed : place directory name = .ok (directory ++ [name]) :=
      place_eq_ok_iff.mpr ⟨isName.short, rfl⟩
    simp [checked, leads, placed, stands, bind, Except.bind, throw, throwThe, MonadExceptOf.throw]

theorem createDirectories_of_hasDirectoryAt (fuel : Nat) (here : volume.hasDirectoryAt path) :
    createDirectories (fuel + 1) volume path = (.ok (), volume) := by
  have directory : volume.at? path = some .directory := by
    unfold hasDirectoryAt at here
    split at here
    · assumption
    · cases here
  simp [createDirectories, createDirectory_of_at? directory, here]

/-- A file is missing, and can be made: its directory is there, and its name is free in it. -/
structure LacksFile (volume : Volume) (path : Path) (location : Location) : Prop where
  directory : volume.hasDirectoryAt path.directory
  endsFree : volume.EndsFree path location
  noSlash : endsWithSlash path = false
  allowed : volume.refusal .createFile = none

namespace LacksFile

theorem hasAt_eq (lacksFile : volume.LacksFile path location) : volume.hasAt path = false := by
  rcases lacksFile with ⟨-, ⟨checked, last, isName, leads, free⟩, noSlash, -⟩
  rcases resolveDirectory_iff_walk.mp leads with ⟨links, walk⟩
  have resolved := resolve_of_walk checked (parts_of_lastPart last noSlash).1 walk
  rw [follow_free isName free] at resolved
  simp [hasAt, at?, resolved]

theorem createFile_eq (lacksFile : volume.LacksFile path location) :
    volume.createFile path = .ok (volume.put location (.file .empty)) := by
  rcases lacksFile with ⟨-, @⟨above, name, parent, checked, last, isName, leads, free⟩, noSlash,
    allowed⟩
  have placed : place parent name = .ok (parent ++ [name]) :=
    place_eq_ok_iff.mpr ⟨isName.short, rfl⟩
  simp [createFile, checked, last, leads, noSlash, placed, free, allow, allowed, bind, Except.bind,
    pure, Except.pure]

theorem ensureFile_eq (lacksFile : volume.LacksFile path location) :
    volume.ensureFile path = (.ok true, volume.put location (.file .empty)) := by
  simp [ensureFile, lacksFile.hasAt_eq,
    createDirectories_of_hasDirectoryAt _ lacksFile.directory, lacksFile.createFile_eq]

theorem read_put (lacksFile : volume.LacksFile path location)
    (allowed : volume.refusal .read = none) :
    (volume.put location (.file .empty)).read path = .ok .empty := by
  have named : volume.entry? location ≠ some .directory := by simp [lacksFile.endsFree.free]
  have resolved := lacksFile.endsFree.resolve_put (.inr ⟨lacksFile.noSlash, rfl⟩)
  exact read_eq_ok_iff.mpr ⟨allowed,
    at?_eq_some_iff.mpr ⟨location, resolved, entry?_put_self (ne_nil_of_ne_directory named)⟩⟩

end LacksFile

end Volume

end Gatehouse.Disk
