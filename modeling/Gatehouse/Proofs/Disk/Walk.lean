import Gatehouse.Proofs.Disk.Following

/-!
# Walks through directories

`follow` answers where a path ends, but not with which budget of links it got
there, so two stretches of a path cannot be put together by its answers alone.
`Walk` is the missing relation: it leads from directory to directory and tells
what is left of the budget.

The last section is about the one case in which replacing what a path names
would change the way to it, a path that leads through its own last link.  The
link then leads to a directory, so nothing could have been read there in the
first place.
-/

namespace Gatehouse.Disk.Volume

variable {volume other : Volume} {links left : Nat} {current last : Location}
  {part name : String} {parts rest : List String} {target : Path}

/-- Parts lead from one place to another through directories and links, with a budget of
links and what is left of it. -/
inductive Walk (volume : Volume) : Nat → Location → List String → Nat → Location → Prop
  | arrived {links : Nat} {current : Location} : Walk volume links current [] links current
  | stay {links left : Nat} {current last : Location} {rest : List String}
      (onward : Walk volume links current rest left last) :
      Walk volume links current ("." :: rest) left last
  | up {links left : Nat} {current last : Location} {rest : List String}
      (onward : Walk volume links current.dropLast rest left last) :
      Walk volume links current (".." :: rest) left last
  | down {links left : Nat} {current last : Location} {part : String} {rest : List String}
      (isName : IsName part) (directory : volume.entry? (current ++ [part]) = some .directory)
      (onward : Walk volume links (current ++ [part]) rest left last) :
      Walk volume links current (part :: rest) left last
  | through {links left : Nat} {current last : Location} {part : String} {rest : List String}
      {target : Path} (isName : IsName part)
      (link : volume.entry? (current ++ [part]) = some (.link target)) (named : target ≠ "")
      (onward : Walk volume links (linkStart current target) (Volume.parts target ++ rest)
        left last) :
      Walk volume (links + 1) current (part :: rest) left last

namespace Walk

theorem follow_append (walk : volume.Walk links current parts left last) (rest : List String) :
    volume.follow true links current (parts ++ rest) = volume.follow true left last rest := by
  induction walk with
  | arrived => simp
  | stay onward ih => simpa using ih
  | up onward ih => simpa using ih
  | down isName directory onward ih =>
      rw [List.cons_append, follow_directory isName directory]
      exact ih
  | through isName link named onward ih =>
      rw [List.cons_append, follow_link isName link named, ← List.append_assoc]
      exact ih

theorem follow_eq (walk : volume.Walk links current parts left last) :
    volume.follow true links current parts = .ok (.found last) := by
  simpa using walk.follow_append []

/-- Whatever stands in front of another part has been walked if the path ends anywhere. -/
theorem exists_of_follows {final : Target} {next : String}
    (follows : volume.Follows links current (parts ++ next :: rest) final) :
    ∃ left last, volume.Walk links current parts left last := by
  -- A path that ends at a file or a free name has ended with its last part, so the parts in front
  -- were directories, links and dots.
  generalize whole : parts ++ next :: rest = path at follows
  induction follows generalizing parts with
  | arrived => simp at whole
  | stay onward ih =>
      rcases parts with _ | ⟨first, others⟩
      · exact ⟨_, _, .arrived⟩
      · simp only [List.cons_append, List.cons.injEq] at whole
        rcases whole with ⟨rfl, whole⟩
        rcases ih whole with ⟨left, last, walk⟩
        exact ⟨left, last, .stay walk⟩
  | up onward ih =>
      rcases parts with _ | ⟨first, others⟩
      · exact ⟨_, _, .arrived⟩
      · simp only [List.cons_append, List.cons.injEq] at whole
        rcases whole with ⟨rfl, whole⟩
        rcases ih whole with ⟨left, last, walk⟩
        exact ⟨left, last, .up walk⟩
  | atFile isName file =>
      rcases parts with _ | ⟨first, others⟩
      · exact ⟨_, _, .arrived⟩
      · simp at whole
  | atFree isName free =>
      rcases parts with _ | ⟨first, others⟩
      · exact ⟨_, _, .arrived⟩
      · simp at whole
  | down isName directory onward ih =>
      rcases parts with _ | ⟨first, others⟩
      · exact ⟨_, _, .arrived⟩
      · simp only [List.cons_append, List.cons.injEq] at whole
        rcases whole with ⟨rfl, whole⟩
        rcases ih whole with ⟨left, last, walk⟩
        exact ⟨left, last, .down isName directory walk⟩
  | through isName link named onward ih =>
      rcases parts with _ | ⟨first, others⟩
      · exact ⟨_, _, .arrived⟩
      · simp only [List.cons_append, List.cons.injEq] at whole
        rcases whole with ⟨rfl, whole⟩
        rcases ih (by rw [List.append_assoc, whole]) with ⟨left, last, walk⟩
        exact ⟨left, last, .through isName link named walk⟩

/-- A path with a dot behind it ends where its parts walk to. -/
theorem exists_of_follow_dot
    (followed : volume.follow true links current (parts ++ ["."]) = .ok (.found last)) :
    ∃ left, volume.Walk links current parts left last := by
  rcases exists_of_follows (follows_of_follow followed) with ⟨left, reached, walk⟩
  rw [walk.follow_append, follow_stay, follow_nil] at followed
  cases followed
  exact ⟨left, walk⟩

theorem left_le (walk : volume.Walk links current parts left last) : left ≤ links := by
  induction walk with
  | arrived => exact Nat.le_refl _
  | stay onward ih => exact ih
  | up onward ih => exact ih
  | down isName directory onward ih => exact ih
  | through isName link named onward ih => omega

theorem ends_in_directory (walk : volume.Walk links current parts left last)
    (wellFormed : volume.WellFormed) (directory : volume.entry? current = some .directory) :
    volume.entry? last = some .directory := by
  induction walk with
  | arrived => exact directory
  | stay onward ih => exact ih directory
  | up onward ih => exact ih (wellFormed.dropLast directory)
  | down isName deeper onward ih => exact ih deeper
  | through isName link named onward ih => exact ih (entry?_linkStart _ directory)

theorem exists_first {more : List String}
    (walk : volume.Walk links current (parts ++ more) left last) :
    ∃ between reached, volume.Walk links current parts between reached := by
  rcases more with _ | ⟨next, rest⟩
  · rw [List.append_nil] at walk
    exact ⟨left, last, walk⟩
  · exact exists_of_follows (follows_of_follow walk.follow_eq)

/-- With a smaller budget a walk leads to the same place or runs out of links. -/
theorem follow_of_le {fewer : Nat} (walk : volume.Walk links current parts left last)
    (le : fewer ≤ links) :
    volume.follow true fewer current parts = .error .linkLoop ∨
      volume.follow true fewer current parts = .ok (.found last) := by
  induction walk generalizing fewer with
  | arrived => exact .inr (by simp)
  | stay onward ih => simpa using ih le
  | up onward ih => simpa using ih le
  | down isName directory onward ih =>
      rw [follow_directory isName directory]
      exact ih le
  | through isName link named onward ih =>
      rcases fewer with _ | fewer
      · exact .inl (follow_link_zero isName link)
      · rw [follow_link isName link named]
        exact ih (by omega)

theorem carry (walk : volume.Walk links current parts left last)
    (ways : ∀ {place : Location} {entry : Entry}, volume.entry? place = some entry →
      entry.leadsOn → other.entry? place = some entry) :
    other.Walk links current parts left last := by
  induction walk with
  | arrived => exact .arrived
  | stay onward ih => exact .stay ih
  | up onward ih => exact .up ih
  | down isName directory onward ih => exact .down isName (ways directory rfl) ih
  | through isName link named onward ih => exact .through isName (ways link rfl) named ih

theorem congr (walk : volume.Walk links current parts left last)
    (ways : ∀ location, other.way? location = volume.way? location) :
    other.Walk links current parts left last := by
  apply walk.carry
  intro location entry stands leads
  have way := way?_eq_some_iff.mpr ⟨stands, leads⟩
  rw [← ways] at way
  exact (way?_eq_some_iff.mp way).1

/-- Where only a link is replaced, a walk stays a walk or leads through that link. -/
theorem congr_or_passes {directory : Location}
    (walk : volume.Walk links current parts left last)
    (link : volume.entry? (directory ++ [name]) = some (.link target))
    (ways : ∀ location, location ≠ directory ++ [name] →
      other.way? location = volume.way? location) :
    other.Walk links current parts left last ∨
      target ≠ "" ∧ ∃ budget rest, volume.Walk budget (linkStart directory target)
        (Volume.parts target ++ rest) left last := by
  have carry : ∀ {location : Location} {entry : Entry}, location ≠ directory ++ [name] →
      volume.entry? location = some entry → entry.leadsOn → other.entry? location = some entry := by
    intro location entry elsewhere stands leads
    have way := way?_eq_some_iff.mpr ⟨stands, leads⟩
    rw [← ways location elsewhere] at way
    exact (way?_eq_some_iff.mp way).1
  induction walk with
  | arrived => exact .inl .arrived
  | stay onward ih => exact ih.imp .stay id
  | up onward ih => exact ih.imp .up id
  | @down links left current last part rest isName deeper onward ih =>
      have elsewhere : current ++ [part] ≠ directory ++ [name] := by
        intro same
        rw [same, link] at deeper
        cases deeper
      exact ih.imp (.down isName (carry elsewhere deeper rfl)) id
  | @through links left current last part rest goal isName leads named onward ih =>
      by_cases same : current ++ [part] = directory ++ [name]
      · -- The walk comes to the link itself; what is left of it starts there.
        right
        rw [same, link] at leads
        cases leads
        rw [(List.append_inj' same rfl).1] at onward
        exact ⟨named, links, rest, onward⟩
      · exact ih.imp (.through isName (carry same leads rfl) named) id

/-- If the way to a link leads through the link, the link is no file and no free name. -/
theorem follow_link_of_passes {budget : Nat} (wellFormed : volume.WellFormed)
    (passes : volume.Walk budget (linkStart last target) (Volume.parts target ++ rest) left last)
    (directory : volume.entry? last = some .directory) (isName : IsName name)
    (link : volume.entry? (last ++ [name]) = some (.link target)) (named : target ≠ "") :
    volume.follow true left last [name] = .error .linkLoop ∨
      ∃ location, volume.follow true left last [name] = .ok (.found location) ∧
        volume.entry? location = some .directory := by
  rcases left with _ | fewer
  · exact .inl (follow_link_zero isName link)
  · -- The target was walked with at least as many links as are left at the end.
    have enough : fewer ≤ budget := by
      have := passes.left_le
      omega
    rcases passes.exists_first with ⟨between, reached, first⟩
    have isDirectory : volume.entry? reached = some .directory :=
      first.ends_in_directory wellFormed (entry?_linkStart target directory)
    rw [follow_link isName link named, List.append_nil]
    rcases first.follow_of_le enough with looped | arrived
    · exact .inl looped
    · exact .inr ⟨reached, arrived, isDirectory⟩

end Walk

end Gatehouse.Disk.Volume
