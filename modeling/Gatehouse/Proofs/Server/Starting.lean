import Gatehouse.Proofs.Disk.Supplies
import Gatehouse.Proofs.Policy.Commit
import Gatehouse.Server.Startup

/-!
# What a start does to the volume

A start touches the volume only where a policy file is missing, and it touches
it before it knows whether it will succeed.  Whatever it comes to, everything
that stood on the volume stands there as it was, and what is new are directories
above the two policy files and empty policy files.

The two paths may be the same, or one may lie above the other, or lead through a
directory that is made for the other.  None of this needs a case of its own:
what the first policy was loaded from is still there when the second has been
opened, since everything stays.  For the same reason a second start finds both
files, makes nothing and comes to the same server.
-/

namespace Gatehouse

open Disk (Location Path Volume)
open Disk.Volume (Supplied)

namespace PolicyFile

variable {Rule : Type} {grammar : Grammar Rule} {path : Path} {volume other : Volume}
  {policy : PolicyFile Rule} {location : Location}

/-- The policy has been loaded once, from its file as it is on the volume. -/
structure IsFirstLoad (grammar : Grammar Rule) (path : Path) (volume : Volume)
    (policy : PolicyFile Rule) : Prop where
  ruleset : ∃ content text, volume.read path = .ok content ∧ Text.decode? content = some text ∧
    policy.published = some (grammar.parse text)
  reloads : policy.reloads = 1
  failedReloads : policy.failedReloads = 0
  grammar : policy.grammar = grammar
  path : policy.path = path

theorem openAt_eq_ok_iff :
    openAt grammar path volume = .ok policy ↔ IsFirstLoad grammar path volume policy := by
  constructor
  · intro opened
    unfold openAt reload load at opened
    cases read : volume.read path with
    | error error => simp [new, read, settle] at opened
    | ok content =>
        cases decoded : Text.decode? content with
        | none => simp [new, read, rulesetOf, decoded, settle] at opened
        | some text =>
            simp only [new, read, rulesetOf, decoded, settle, publish, Except.ok.injEq] at opened
            subst opened
            exact ⟨⟨content, text, read, decoded, rfl⟩, rfl, rfl, rfl, rfl⟩
  · rintro ⟨⟨content, text, read, decoded, published⟩, reloads, failedReloads, rfl, rfl⟩
    rcases policy with ⟨grammar, path, ruleset?, attempts, failures⟩
    have once : attempts = 1 := UInt64.toNat_inj.mp reloads
    have never : failures = 0 := UInt64.toNat_inj.mp failedReloads
    dsimp only at published read
    subst once never published
    simp [openAt, reload, new, load_of_decode grammar read decoded, settle, publish]

theorem rulesetOf_empty (grammar : Grammar Rule) (path : Path) :
    rulesetOf grammar path .empty = .ok .empty := by
  have blank : Text.decode? .empty = some "" := by decide +kernel
  have nothing : RuleLine.all "" = [] := by decide +kernel
  simp [rulesetOf, blank, Grammar.parse, nothing, Ruleset.empty]

namespace IsFirstLoad

theorem stays (isFirstLoad : IsFirstLoad grammar path volume policy)
    (stays : volume.StaysOn other) : IsFirstLoad grammar path other policy := by
  rcases isFirstLoad.ruleset with ⟨content, text, read, loaded⟩
  exact { isFirstLoad with ruleset := ⟨content, text, stays.read_eq read, loaded⟩ }

theorem ensureFile_eq (isFirstLoad : IsFirstLoad grammar path volume policy) :
    volume.ensureFile path = (.ok false, volume) := by
  rcases isFirstLoad.ruleset with ⟨content, text, read, -, -⟩
  exact Volume.ensureFile_of_at? (Volume.read_eq_ok_iff.mp read).2

/-- What is loaded from a file that was made for it is the empty ruleset. -/
theorem published_eq_empty {directories files : Path → Prop}
    (isFirstLoad : IsFirstLoad grammar path other policy)
    (supplied : Supplied directories files volume other)
    (leads : other.resolve path = .ok (.found location))
    (free : volume.entry? location = none) : policy.published = some .empty := by
  rcases isFirstLoad.ruleset with ⟨content, text, read, decoded, published⟩
  rcases Volume.at?_eq_some_iff.mp (Volume.read_eq_ok_iff.mp read).2 with ⟨place, found, file⟩
  rw [leads] at found
  cases found
  cases supplied.asked free file with
  | file asks leads =>
      have parsed := rulesetOf_empty grammar path
      rw [rulesetOf, decoded] at parsed
      rw [published, Except.ok.inj parsed]

end IsFirstLoad

end PolicyFile

/-- The paths of the two policy files. -/
def Settings.policyPaths (settings : Settings) : List Path :=
  [settings.bypassFile, settings.cacheFile]

namespace Server

open PolicyFile (IsFirstLoad)

variable {Rule : Type} {grammar : Grammar Rule} {path : Path} {volume left : Volume}
  {location : Location} {policy : PolicyFile Rule} {fault? : Nat → Option String}
  {settings : Settings}

theorem supplied_openPolicy (grammar : Grammar Rule) (path : Path) (volume : Volume) :
    Supplied (·.IsAbove path.directory) (· = path) volume (openPolicy grammar path volume).2 := by
  have supplied := volume.supplied_ensureFile path
  unfold openPolicy
  generalize volume.ensureFile path = outcome at supplied
  rcases outcome with ⟨error | _, ready⟩
  · exact supplied
  · dsimp only
    split <;> exact supplied

theorem isFirstLoad_of_openPolicy (opened : openPolicy grammar path volume = (.ok policy, left)) :
    IsFirstLoad grammar path left policy := by
  unfold openPolicy at opened
  split at opened
  · cases opened
  · split at opened
    · cases opened
    · rename_i loaded
      cases opened
      exact PolicyFile.openAt_eq_ok_iff.mp loaded

theorem openPolicy_of_isFirstLoad (isFirstLoad : IsFirstLoad grammar path volume policy) :
    openPolicy grammar path volume = (.ok policy, volume) := by
  simp only [openPolicy, isFirstLoad.ensureFile_eq, PolicyFile.openAt_eq_ok_iff.mpr isFirstLoad]

theorem openPolicy_of_lacksFile (lacksFile : volume.LacksFile path location)
    (allowed : volume.refusal .read = none) :
    openPolicy grammar path volume =
      (.ok ⟨grammar, path, some .empty, 1, 0⟩, volume.put location (.file .empty)) := by
  have opened : PolicyFile.openAt grammar path (volume.put location (.file .empty)) =
      .ok ⟨grammar, path, some .empty, 1, 0⟩ := by
    simp [PolicyFile.openAt, PolicyFile.reload, PolicyFile.new, PolicyFile.load,
      lacksFile.read_put allowed, PolicyFile.rulesetOf_empty, PolicyFile.settle,
      PolicyFile.publish]
  simp only [openPolicy, lacksFile.ensureFile_eq, opened]

/-- What stood on the volume before a start stands as it did, and all that is new are directories
above the policy files and empty policy files. -/
def KeepsVolume (settings : Settings) (volume left : Volume) : Prop :=
  Supplied (fun path => ∃ file ∈ settings.policyPaths, path.IsAbove file.directory)
    (· ∈ settings.policyPaths) volume left

theorem keepsVolume_openPolicy (memPaths : path ∈ settings.policyPaths) (grammar : Grammar Rule)
    (volume : Volume) : KeepsVolume settings volume (openPolicy grammar path volume).2 := by
  apply (supplied_openPolicy grammar path volume).mono
  · exact fun above isAbove => ⟨path, memPaths, isAbove⟩
  · rintro file rfl
    exact memPaths

variable [PatternEngine] {server : Server}

/-- The server has started from the volume as it is: both policies have been loaded once, and there
is a client if an application is named. -/
structure IsStarted (fault? : Nat → Option String) (settings : Settings) (volume : Volume)
    (server : Server) : Prop where
  bypass : IsFirstLoad bypassGrammar settings.bypassFile volume server.bypass
  cache : IsFirstLoad cacheGrammar settings.cacheFile volume server.cache
  backend : connect fault? settings = .ok server.backend
  settings : server.settings = settings

theorem keepsVolume_startWith (fault? : Nat → Option String) (settings : Settings)
    (volume : Volume) : KeepsVolume settings volume (startWith fault? settings volume).2 := by
  have first : KeepsVolume settings volume
      (openPolicy bypassGrammar settings.bypassFile volume).2 :=
    keepsVolume_openPolicy (by simp [Settings.policyPaths]) bypassGrammar volume
  unfold startWith
  generalize openPolicy bypassGrammar settings.bypassFile volume = outcome at first
  rcases outcome with ⟨error | bypass, half⟩
  · exact first
  · have second : KeepsVolume settings half
        (openPolicy cacheGrammar settings.cacheFile half).2 :=
      keepsVolume_openPolicy (by simp [Settings.policyPaths]) cacheGrammar half
    dsimp only
    generalize openPolicy cacheGrammar settings.cacheFile half = outcome at second
    rcases outcome with ⟨error | cache, ready⟩ <;> exact first.trans second

theorem isStarted_of_startWith (started : startWith fault? settings volume = (.ok server, left)) :
    IsStarted fault? settings left server := by
  unfold startWith at started
  split at started
  · cases started
  · rename_i bypass half first
    -- The second policy may make files after the first was loaded, but what was loaded stays.
    have stays := (supplied_openPolicy cacheGrammar settings.cacheFile half).toStaysOn
    split at started
    · cases started
    · rename_i cache ready second
      rw [second] at stays
      rcases connected : connect fault? settings with error | backend
      · rw [connected] at started
        cases started
      · rw [connected] at started
        cases started
        exact ⟨(isFirstLoad_of_openPolicy first).stays stays, isFirstLoad_of_openPolicy second,
          connected, rfl⟩

theorem startWith_of_isStarted (isStarted : IsStarted fault? settings volume server) :
    startWith fault? settings volume = (.ok server, volume) := by
  rcases server with ⟨_, bypass, cache, backend⟩
  rcases isStarted with ⟨first, second, connected, rfl⟩
  simp only [startWith, openPolicy_of_isFirstLoad first, openPolicy_of_isFirstLoad second]
  dsimp only at connected
  rw [connected]
  rfl

theorem startWith_of_lacksFiles {place : Location} {backend : Option Backend}
    (lacksBypass : volume.LacksFile settings.bypassFile location)
    (lacksCache : (volume.put location (.file .empty)).LacksFile settings.cacheFile place)
    (allowed : volume.refusal .read = none) (connected : connect fault? settings = .ok backend) :
    startWith fault? settings volume =
      (.ok ⟨settings, ⟨bypassGrammar, settings.bypassFile, some .empty, 1, 0⟩,
        ⟨cacheGrammar, settings.cacheFile, some .empty, 1, 0⟩, backend⟩,
        (volume.put location (.file .empty)).put place (.file .empty)) := by
  simp only [startWith, openPolicy_of_lacksFile lacksBypass allowed]
  rw [openPolicy_of_lacksFile lacksCache allowed, connected]
  rfl

/-- What a start promises for settings and a volume, if a client can be built or not. -/
structure StartsSafely (fault? : Nat → Option String) (settings : Settings) (volume : Volume) :
    Prop where
  /-- Whatever the start comes to, it only makes what is missing. -/
  keeps : KeepsVolume settings volume (startWith fault? settings volume).2
  /-- There is no server without both policies. -/
  started : ∀ server left, startWith fault? settings volume = (.ok server, left) →
    IsStarted fault? settings left server
  /-- A policy whose file was made has no rules. -/
  fresh : ∀ server left, startWith fault? settings volume = (.ok server, left) →
    ∀ location, volume.entry? location = none →
      (left.resolve settings.bypassFile = .ok (.found location) →
        server.bypass.published = some .empty) ∧
      (left.resolve settings.cacheFile = .ok (.found location) →
        server.cache.published = some .empty)
  /-- Where nothing is missing the server starts, and nothing is made. -/
  ready : ∀ server, IsStarted fault? settings volume server →
    startWith fault? settings volume = (.ok server, volume)
  /-- Where both files are missing, and can be made, they are. -/
  made : ∀ location place backend, volume.LacksFile settings.bypassFile location →
    (volume.put location (.file .empty)).LacksFile settings.cacheFile place →
      volume.refusal .read = none → connect fault? settings = .ok backend →
        ∃ server, startWith fault? settings volume =
          (.ok server, (volume.put location (.file .empty)).put place (.file .empty))
  /-- Another start behind it comes to the same and changes nothing. -/
  again : ∀ server left, startWith fault? settings volume = (.ok server, left) →
    startWith fault? settings left = (.ok server, left)

theorem startWith_startsSafely (fault? : Nat → Option String) (settings : Settings)
    (volume : Volume) : StartsSafely fault? settings volume := by
  have keeps := keepsVolume_startWith fault? settings volume
  constructor
  case keeps => exact keeps
  case started =>
      intro server left started
      exact isStarted_of_startWith started
  case fresh =>
      intro server left started location free
      have isStarted := isStarted_of_startWith started
      rw [started] at keeps
      exact ⟨fun leads => isStarted.bypass.published_eq_empty keeps leads free,
        fun leads => isStarted.cache.published_eq_empty keeps leads free⟩
  case ready =>
      intro server isStarted
      exact startWith_of_isStarted isStarted
  case made =>
      intro location place backend lacksBypass lacksCache allowed connected
      exact ⟨_, startWith_of_lacksFiles lacksBypass lacksCache allowed connected⟩
  case again =>
      intro server left started
      exact startWith_of_isStarted (isStarted_of_startWith started)

end Server

end Gatehouse
