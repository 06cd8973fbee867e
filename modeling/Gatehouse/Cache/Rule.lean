import Gatehouse.Cache.MethodSet
import Gatehouse.Pattern.Basic
import Gatehouse.Rules.Grammar

/-!
# Cache rules

Which responses may be cached.  A rule allows or denies, selects paths by a
whole text, by a beginning or by a pattern, may be limited to some methods, and
gives a time to live and the headers that a response varies by.  The first rule
that covers a method and a path decides; what no rule covers is not cacheable.
-/

namespace Gatehouse

/-- What a rule says about the responses it covers. -/
inductive Disposition where
  /-- They may be cached. -/
  | allow
  /-- They may not. -/
  | deny
  deriving DecidableEq, Repr

namespace Disposition

/-- Reads the keyword, in any case of its ASCII letters. -/
def parse? (text : String) : Option Disposition :=
  let keyword := Text.asciiUpper text
  if keyword = "ALLOW" then some .allow
  else if keyword = "DENY" then some .deny
  else none

def keyword : Disposition → String
  | .allow => "ALLOW"
  | .deny => "DENY"

end Disposition

/-- The ways to select paths. -/
inductive MatchKind where
  /-- The path is a given text. -/
  | exact
  /-- The path begins with a given text. -/
  | beginning
  /-- A pattern occurs in the path. -/
  | pattern
  deriving DecidableEq, Repr

namespace MatchKind

def key : MatchKind → String
  | .exact => "exact"
  | .beginning => "prefix"
  | .pattern => "regex"

def ofKey? (key : String) : Option MatchKind :=
  if key = "exact" then some .exact
  else if key = "prefix" then some .beginning
  else if key = "regex" then some .pattern
  else none

end MatchKind

variable [PatternEngine]

/-- How a rule selects paths. -/
inductive PathMatcher where
  | exact (text : String)
  | beginning (text : String)
  | pattern (wanted : Pattern)
  deriving DecidableEq

namespace PathMatcher

def kind : PathMatcher → MatchKind
  | .exact _ => .exact
  | .beginning _ => .beginning
  | .pattern _ => .pattern

/-- The text the matcher is written with. -/
def value : PathMatcher → String
  | .exact text => text
  | .beginning text => text
  | .pattern wanted => wanted.source

def selects (matcher : PathMatcher) (path : String) : Bool :=
  match matcher with
  | .exact text => path == text
  | .beginning text => Text.startsWith path text
  | .pattern wanted => wanted.isIn path

/-- The matcher of a kind and a text; only a pattern can fail. -/
def make? (kind : MatchKind) (text : String) : Option PathMatcher :=
  match kind with
  | .exact => some (.exact text)
  | .beginning => some (.beginning text)
  | .pattern => (Pattern.ofSource? text).map .pattern

end PathMatcher

/-- The time to live of a rule that gives none, in seconds. -/
def defaultTtl : Nat := 600

/-- The methods that a rule may name. -/
def supportedMethods : List String :=
  ["GET", "HEAD"]

/-- One rule of the cache policy. -/
structure CacheRule where
  /-- What the rule says about the responses it covers. -/
  disposition : Disposition
  /-- How it selects paths; without a matcher it covers nothing. -/
  matcher : Option PathMatcher
  /-- The methods it is limited to; the empty set is no limit. -/
  methods : MethodSet
  /-- The time to live in seconds. -/
  ttl : Nat
  /-- The headers that a response varies by. -/
  vary : List String
  deriving DecidableEq

namespace CacheRule

/-- The rule with nothing given but its disposition. -/
def plain (disposition : Disposition) : CacheRule :=
  ⟨disposition, none, .empty, defaultTtl, []⟩

/-- The rule covers a method, written in capitals, and a path. -/
def covers (rule : CacheRule) (method path : String) : Bool :=
  (rule.methods.isEmpty || rule.methods.contains method) &&
    rule.matcher.any fun matcher => matcher.selects path

end CacheRule

namespace Ruleset

/-- The position of the rule that decides about a method and a path. -/
def decidingPosition (ruleset : Ruleset CacheRule) (method path : String) : Option Nat :=
  ruleset.rules.findIdx? fun rule => rule.covers (Text.asciiUpper method) path

/-- The rule that decides about a method and a path. -/
def decidingRule (ruleset : Ruleset CacheRule) (method path : String) : Option CacheRule :=
  ruleset.rules.find? fun rule => rule.covers (Text.asciiUpper method) path

/-- The rule under which a response may be cached, if it may. -/
def allowingRule (ruleset : Ruleset CacheRule) (method path : String) : Option CacheRule :=
  (ruleset.decidingRule method path).filter fun rule => rule.disposition = .allow

def isCacheable (ruleset : Ruleset CacheRule) (method path : String) : Bool :=
  (ruleset.allowingRule method path).isSome

end Ruleset

end Gatehouse
