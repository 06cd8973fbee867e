import Gatehouse.Cache.Line

/-!
# Structured cache rules

The form in which the admin API shows and takes cache rules.  Taking a list of
drafts is strict: either every draft becomes a rule or the report names every
defect.  Showing a rule names the methods that an empty set stands for, and
keeps a time to live within the range that a draft can hold.
-/

namespace Gatehouse

/-- A cache rule in structured form. -/
structure RuleDraft where
  /-- The keyword. -/
  kind : String
  /-- The key of the matcher. -/
  matchType : String
  /-- The text of the matcher. -/
  matchValue : String
  methods : List String
  /-- The time to live, if one is given. -/
  ttl : Option Int64
  vary : List String
  deriving DecidableEq, Repr

namespace RuleDraft

variable [PatternEngine]

/-- The greatest time to live that a draft can hold. -/
def greatestTtl : Nat := Nat.pow 2 63 - 1

def ofRule (rule : CacheRule) : RuleDraft where
  kind := rule.disposition.keyword
  matchType := (rule.matcher.map fun matcher => matcher.kind.key).getD ""
  matchValue := (rule.matcher.map PathMatcher.value).getD ""
  methods := if rule.methods.isEmpty then supportedMethods else rule.methods.toList
  ttl := some (.ofNat (min rule.ttl greatestTtl))
  vary := rule.vary

/-- The way the draft selects paths, if its key names one in any case. -/
def matchKind? (draft : RuleDraft) : Option MatchKind :=
  MatchKind.ofKey? (Text.asciiLower draft.matchType)

/-- The matcher of the draft, if there is one. -/
def matcher? (draft : RuleDraft) : Option PathMatcher :=
  if draft.matchValue = "" then none
  else draft.matchKind?.bind fun kind => PathMatcher.make? kind draft.matchValue

/-- The methods of the draft; none at all stands for the supported ones. -/
def methodSet (draft : RuleDraft) : MethodSet :=
  let names := (draft.methods.map fun method => Text.asciiUpper (Text.trim method)).filter
    fun name => name ≠ ""
  if names.isEmpty then .ofList supportedMethods else .ofList names

/-- The defects of a draft, in the order of its fields. -/
def defects (draft : RuleDraft) : List String :=
  (if (Disposition.parse? draft.kind).isNone then ["kind must be ALLOW or DENY"] else []) ++
    (match draft.matchKind? with
      | some kind => (CacheRule.matchDefect kind draft.matchValue).toList
      | none => ["match.type must be prefix|regex|exact"]) ++
    draft.methods.filterMap CacheRule.methodDefect ++
    (if draft.ttl.any (· < 0) then ["ttl must be >= 0"] else []) ++
    draft.vary.filterMap CacheRule.varyDefect

/-- The rule of a draft, unless its keyword or its matcher is unusable. -/
def rule? (draft : RuleDraft) : Option CacheRule := do
  return {
    disposition := ← Disposition.parse? draft.kind
    matcher := some (← draft.matcher?)
    methods := draft.methodSet
    ttl := match draft.ttl with
      | some ttl => if ttl < 0 then defaultTtl else ttl.toNatClampNeg
      | none => defaultTtl
    vary := (draft.vary.map Text.trim).filter fun header => header ≠ "" }

/-- How messages name the draft at a position. -/
def place (position : Nat) : String :=
  "rules[" ++ toString position ++ "]"

/-- The messages about drafts, the first of which has the given position. -/
def messagesFrom (position : Nat) : List RuleDraft → List String
  | [] => []
  | draft :: rest =>
      draft.defects.map (Report.entry (place position)) ++ messagesFrom (position + 1) rest

def report (drafts : List RuleDraft) : Report :=
  ⟨messagesFrom 0 drafts⟩

/-- The ruleset of a list of drafts, or the report on their defects. -/
def build (drafts : List RuleDraft) : Except Report (Ruleset CacheRule) :=
  if (report drafts).isOk then .ok ⟨drafts.filterMap rule?⟩ else .error (report drafts)

end RuleDraft

namespace Ruleset

variable [PatternEngine]

/-- The structured form of a cache ruleset. -/
def drafts (ruleset : Ruleset CacheRule) : List RuleDraft :=
  ruleset.rules.map .ofRule

/-- The comment in front of rules that are written from structured form. -/
def cacheFileHeader : String :=
  "# cache.conf - cache rules\n" ++
    "# Top-down evaluation; first match wins.\n" ++
    "# Syntax: ALLOW|DENY prefix=...|regex=...|exact=... " ++
    "methods=GET,HEAD ttl=<sec> vary=Header,Header\n"

/-- The whole file of a cache ruleset. -/
def cacheFile (ruleset : Ruleset CacheRule) : String :=
  cacheFileHeader ++ "\n" ++ cacheGrammar.render ruleset

end Ruleset

end Gatehouse
