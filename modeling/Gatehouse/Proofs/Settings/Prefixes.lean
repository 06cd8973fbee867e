import Gatehouse.Proofs.Admin.Templates
import Gatehouse.Proofs.Path.Canonical
import Gatehouse.Proofs.Text.Words
import Gatehouse.Server.Serve

/-!
# Base paths that are accepted

Settings are refused if their base path is the root, and for no other reason.  What is accepted
starts with a slash and does not end with one, but the rest of what a prefix must be is left to
whoever writes it.  The blanks around the text are taken away before the slashes at its end, so a
blank in front of these slashes stays; and what the router does not take as text is accepted too,
although it keeps the server from starting or makes the prefix a pattern.

Where the environment gives a plain text without such a blank, the accepted base path is a prefix
that stands for itself, and each endpoint of the admin API is found behind it and nowhere else.
-/

namespace Gatehouse.Settings

open Admin.BasePath (IsPlain HoldsReserved literals)
open RequestPath (withRoot)

variable {characters : List Char} {written base : String}

/-- The text without the slashes at its end. -/
def bare (characters : List Char) : List Char :=
  characters.rdropWhile (· == '/')

theorem toList_normalizeBasePath (written : String) :
    (normalizeBasePath written).toList = withRoot (bare (Text.trimChars written.toList)) := by
  have body : (Text.dropEnding '/' (Text.trim written)).toList =
      bare (Text.trimChars written.toList) := by
    rw [Text.dropEnding, String.toList_ofList, Text.toList_trim]
    rfl
  have empty : Text.dropEnding '/' (Text.trim written) = "" ↔
      bare (Text.trimChars written.toList) = [] := by
    rw [← body, String.toList_eq_nil_iff]
  have starts : Text.startsWith (Text.dropEnding '/' (Text.trim written)) "/" ↔
      (bare (Text.trimChars written.toList)).head? = some '/' := by
    rw [Text.startsWith, body, List.isPrefixOf_iff_prefix]
    exact List.singleton_prefix_iff_head?_eq_some
  simp only [normalizeBasePath, withRoot, empty, starts]
  split
  case isTrue nothing => simp [nothing]
  case isFalse =>
    split
    · exact body
    · simp [body]

theorem exists_bare (characters : List Char) :
    ∃ slashes, characters = bare characters ++ slashes ∧ ∀ slash ∈ slashes, slash = '/' := by
  refine ⟨characters.rtakeWhile (· == '/'), ?_, ?_⟩
  · exact (List.rdropWhile_append_rtakeWhile (p := (· == '/'))).symm
  · intro slash slashMem
    simpa using List.mem_rtakeWhile_imp slashMem

theorem getLast?_bare (characters : List Char) : (bare characters).getLast? ≠ some '/' := by
  intro slash
  rcases List.getLast?_eq_some_iff.mp slash with ⟨front, whole⟩
  rw [bare] at whole
  have last := List.rdropWhile_last_not (· == '/') characters (by simp [whole])
  simp [whole] at last

theorem bare_eq_self (unended : characters.getLast? ≠ some '/') : bare characters = characters := by
  apply List.rdropWhile_eq_self_iff.mpr
  intro nonempty slash
  rw [List.getLast?_eq_some_getLast nonempty] at unended
  exact unended (congrArg some (by simpa using slash))

theorem bare_eq_nil_iff : bare characters = [] ↔ ∀ character ∈ characters, character = '/' := by
  simp [bare, List.rdropWhile_eq_nil_iff]

theorem bare_append_slashes {slashes : List Char}
    (areSlashes : ∀ slash ∈ slashes, slash = '/') :
    bare (characters ++ slashes) = bare characters := by
  induction slashes using List.reverseRecOn with
  | nil => rw [List.append_nil]
  | append_singleton rest slash ih =>
      have last : slash = '/' := areSlashes slash (by simp)
      rw [← List.append_assoc, bare, List.rdropWhile_concat_pos _ _ _ (by simp [last]), ← bare]
      exact ih fun other otherMem => areSlashes other (by simp [otherMem])

/-- No blank stands in front of the slashes at the end. -/
def EndsVisibly (characters : List Char) : Prop :=
  ∀ front last slashes, characters = front ++ last :: slashes →
    (∀ slash ∈ slashes, slash = '/') → Text.isBlank last = false

theorem endsVisibly_iff :
    EndsVisibly characters ↔ ∀ last ∈ (bare characters).getLast?, Text.isBlank last = false := by
  constructor
  · intro visible last lastMem
    rcases List.getLast?_eq_some_iff.mp lastMem with ⟨front, whole⟩
    rcases exists_bare characters with ⟨slashes, cut, areSlashes⟩
    rw [whole, List.append_assoc, List.singleton_append] at cut
    exact visible front last slashes cut areSlashes
  · rintro visible front last slashes rfl areSlashes
    by_cases slash : last = '/'
    · subst slash
      rfl
    · apply visible
      rw [List.append_cons, bare_append_slashes areSlashes, bare_eq_self (by simpa using slash)]
      simp

theorem isPlain_bare_iff : IsPlain (bare characters) ↔ IsPlain characters := by
  rcases exists_bare characters with ⟨slashes, cut, areSlashes⟩
  rw [← Admin.BasePath.isPlain_append_slashes areSlashes, ← cut]

theorem isPlain_withRoot_iff : IsPlain (withRoot characters) ↔ IsPlain characters := by
  unfold withRoot
  split
  case isTrue => rfl
  case isFalse =>
    rw [← List.nil_append ('/' :: characters), Admin.BasePath.isPlain_append_cons]
    simp [Admin.BasePath.isPlain_nil]

/-- What every accepted base path is. -/
structure IsRooted (base : String) : Prop where
  starts : base.toList.head? = some '/'
  unended : base.toList.getLast? ≠ some '/'

/-- A base path that stands for itself, and is kept as it is. -/
structure IsPrefix (base : String) : Prop extends IsRooted base where
  visible : ∀ last ∈ base.toList.getLast?, Text.isBlank last = false
  settled : normalizeBasePath base = base
  plain : IsPlain base.toList
  /-- The router takes the text as it is: it refuses nothing in it and reads nothing into it. -/
  taken : Admin.BasePath.template? base = some (literals base.toList)

theorem head?_withRoot (characters : List Char) : (withRoot characters).head? = some '/' := by
  unfold withRoot
  split
  · assumption
  · rfl

theorem withRoot_eq_self (starts : characters.head? = some '/') :
    withRoot characters = characters :=
  if_pos starts

theorem withRoot_of_within {front whole : List Char} (within : front <+: whole)
    (starts : whole.head? = some '/') (nonempty : front ≠ []) : withRoot front = front := by
  cases front with
  | nil => exact absurd rfl nonempty
  | cons first rest =>
      rcases within with ⟨behind, rfl⟩
      exact withRoot_eq_self starts

namespace IsRooted

theorem visible_first (rooted : IsRooted base) :
    ∀ first ∈ base.toList.head?, Text.isBlank first = false := by
  rw [rooted.starts]
  rintro _ ⟨⟩
  rfl

theorem settled_of_visible (rooted : IsRooted base)
    (visible : ∀ last ∈ base.toList.getLast?, Text.isBlank last = false) :
    normalizeBasePath base = base := by
  rw [← String.toList_inj, toList_normalizeBasePath,
    Text.trimChars_eq_self rooted.visible_first visible, bare_eq_self rooted.unended,
    withRoot_eq_self rooted.starts]

theorem visible_of_settled (rooted : IsRooted base) (settled : normalizeBasePath base = base) :
    ∀ last ∈ base.toList.getLast?, Text.isBlank last = false := by
  -- What normalization takes away here it takes from the end, so nothing was there to trim.
  have whole := congrArg String.toList settled
  rw [toList_normalizeBasePath] at whole
  have trimmed : Text.trimChars base.toList <+: base.toList :=
    Text.trimChars_prefix rooted.visible_first
  have stripped : bare (Text.trimChars base.toList) <+: Text.trimChars base.toList :=
    List.rdropWhile_prefix (· == '/') _
  have nonempty : bare (Text.trimChars base.toList) ≠ [] := by
    intro nothing
    rw [nothing] at whole
    apply rooted.unended
    rw [← whole]
    rfl
  rw [withRoot_of_within (stripped.trans trimmed) rooted.starts nonempty] at whole
  have untouched : Text.trimChars base.toList = base.toList :=
    trimmed.eq_of_length_le (by simpa [whole] using stripped.length_le)
  intro last lastMem
  rw [← untouched] at lastMem
  exact Text.isBlank_of_mem_getLast? lastMem

end IsRooted

variable {environment : Environment} {profile : String}

/-- The text that the environment gives for the base path, without the blanks around it. -/
def givenBasePath (environment : Environment) (profile : String) : List Char :=
  Text.trimChars ((lookup environment (Unicode.toCapitals profile) "API_BASE_PATH").getD
    "/rulegate-api").toList

theorem toList_basePath (environment : Environment) (profile : String) :
    (forProfile environment profile).basePath.toList =
      withRoot (bare (givenBasePath environment profile)) := by
  simp only [forProfile, givenBasePath, toList_normalizeBasePath]

theorem withRoot_bare_eq_root_iff : withRoot (bare characters) = ['/'] ↔ bare characters = [] := by
  constructor
  · intro root
    unfold withRoot at root
    split at root
    case isTrue => exact absurd (by rw [root]; rfl) (getLast?_bare characters)
    case isFalse => exact (List.cons.inj root).2
  · intro nothing
    rw [nothing]
    rfl

theorem defect?_eq_none_iff :
    (forProfile environment profile).defect? = none ↔
      bare (givenBasePath environment profile) ≠ [] := by
  have root : (forProfile environment profile).basePath = "/" ↔
      bare (givenBasePath environment profile) = [] := by
    rw [← String.toList_inj, toList_basePath, ← withRoot_bare_eq_root_iff]
    rfl
  unfold defect?
  split
  case isTrue isRoot => simp [root.mp isRoot]
  case isFalse notRoot => simpa using root.not.mp notRoot

theorem getLast?_withRoot_of_ne_nil (nonempty : characters ≠ []) :
    (withRoot characters).getLast? = characters.getLast? := by
  unfold withRoot
  split
  · rfl
  · exact List.getLast?_cons_of_ne_nil nonempty

theorem getLast?_basePath (accepted : (forProfile environment profile).defect? = none) :
    (forProfile environment profile).basePath.toList.getLast? =
      (bare (givenBasePath environment profile)).getLast? := by
  rw [toList_basePath, getLast?_withRoot_of_ne_nil (defect?_eq_none_iff.mp accepted)]

theorem isRooted_basePath (accepted : (forProfile environment profile).defect? = none) :
    IsRooted (forProfile environment profile).basePath where
  starts := by
    rw [toList_basePath]
    exact head?_withRoot _
  unended := by
    rw [getLast?_basePath accepted]
    exact getLast?_bare _

theorem isPlain_basePath_iff :
    IsPlain (forProfile environment profile).basePath.toList ↔
      IsPlain (givenBasePath environment profile) := by
  rw [toList_basePath, isPlain_withRoot_iff, isPlain_bare_iff]

section

variable [PatternEngine]

/-- What can be relied on about the base path of an environment under a profile. -/
structure ChecksBasePath (environment : Environment) (profile : String) : Prop where
  /-- The text is accepted if it holds anything but slashes. -/
  accepted : (forProfile environment profile).defect? = none ↔
    ∃ character ∈ givenBasePath environment profile, character ≠ '/'
  rooted : (forProfile environment profile).defect? = none →
    IsRooted (forProfile environment profile).basePath
  /-- What is accepted falls short of being a prefix by what it is not asked: whether the router
  takes it as text, and whether a blank stands in front of the slashes at its end. -/
  isPrefix : (forProfile environment profile).defect? = none →
    (IsPrefix (forProfile environment profile).basePath ↔
      IsPlain (givenBasePath environment profile) ∧
        EndsVisibly (givenBasePath environment profile))
  /-- It is such a blank that normalizing once more would take away. -/
  settled : (forProfile environment profile).defect? = none →
    (normalizeBasePath (forProfile environment profile).basePath =
        (forProfile environment profile).basePath ↔
      EndsVisibly (givenBasePath environment profile))
  /-- An endpoint stands behind a plain base path and nowhere else. -/
  routed : IsPlain (givenBasePath environment profile) → ∀ server : Server,
    server.settings = forProfile environment profile → ∀ request endpoint,
      server.endpoint? request = some endpoint ↔
        request.target.path = (forProfile environment profile).basePath ++ endpoint.path
  /-- A base path that is not plain stands for something else, if it can be served at all. -/
  misread : ¬IsPlain (givenBasePath environment profile) →
    Admin.BasePath.template? (forProfile environment profile).basePath ≠
      some (literals (forProfile environment profile).basePath.toList)
  /-- With a reserved segment it cannot. -/
  unservable : HoldsReserved (forProfile environment profile).basePath.toList →
    ¬Admin.BasePath.isServable (forProfile environment profile).basePath

theorem forProfile_checksBasePath (environment : Environment) (profile : String) :
    ChecksBasePath environment profile where
  accepted := by
    rw [defect?_eq_none_iff, ne_eq, bare_eq_nil_iff]
    simp
  rooted := isRooted_basePath
  isPrefix := by
    intro accepted
    have rooted := isRooted_basePath accepted
    rw [endsVisibly_iff, ← getLast?_basePath accepted, ← isPlain_basePath_iff]
    constructor
    · intro isPrefix
      exact ⟨isPrefix.plain, isPrefix.visible⟩
    · rintro ⟨plain, visible⟩
      exact ⟨rooted, visible, rooted.settled_of_visible visible, plain,
        Admin.BasePath.template?_eq_literals_iff.mpr plain⟩
  settled := by
    intro accepted
    have rooted := isRooted_basePath accepted
    rw [endsVisibly_iff, ← getLast?_basePath accepted]
    exact ⟨rooted.visible_of_settled, rooted.settled_of_visible⟩
  routed := by
    intro plain server built request endpoint
    rw [Server.endpoint?, built]
    exact Admin.BasePath.endpoint?_eq_some_iff (isPlain_basePath_iff.mpr plain)
  misread := by
    intro notPlain taken
    exact notPlain (isPlain_basePath_iff.mp (Admin.BasePath.template?_eq_literals_iff.mp taken))
  unservable := Admin.BasePath.not_isServable_of_holdsReserved

end

/-- The environment with one variable. -/
def environmentOf (basePath : String) : Environment :=
  (⟨[]⟩ : Environment).set "API_BASE_PATH" basePath

/-- Accepted are a base path that keeps the server from starting, one that is a pattern, and one
that normalizing once more would change. -/
theorem unfit_basePath_accepted :
    (forProfile (environmentOf "/:admin") "").defect? = none ∧
      ¬Admin.BasePath.isServable (forProfile (environmentOf "/:admin") "").basePath ∧
    (forProfile (environmentOf "/\x7btenant\x7d") "").defect? = none ∧
      Admin.BasePath.endpoint? (forProfile (environmentOf "/\x7btenant\x7d") "").basePath
        "/shop/status" = some .status ∧
    (forProfile (environmentOf "/api /") "").defect? = none ∧
      (forProfile (environmentOf "/api /") "").basePath = "/api " ∧
      normalizeBasePath "/api " = "/api" := by
  decide +kernel

end Gatehouse.Settings
