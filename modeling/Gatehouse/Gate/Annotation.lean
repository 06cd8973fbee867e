import Gatehouse.Cache.Rule
import Gatehouse.Gate.Inspection

/-!
# Annotations of responses

The headers by which the gate tells what it found.  A response to `GET` or
`HEAD` that the cache policy allows is marked, with its time to live and the
headers it varies by; a response to a request that some rule matched names the
rules.  A value that no header can hold is dropped, and only that value.
-/

namespace Gatehouse

open Http (Headers)

namespace HeaderName

/-- The header that names a request. -/
def requestId : String := "x-request-id"

/-- The header that marks a response as cacheable. -/
def cacheable : String := "x-rulegate-cacheable"

/-- The header with the time to live of a cacheable response. -/
def expires : String := "x-accel-expires"

/-- The header with what a response varies by. -/
def vary : String := "vary"

/-- The header that tells that some rule matched. -/
def hit : String := "x-rulegate-hit"

/-- The header with the rules that matched. -/
def ruleIds : String := "x-rulegate-rule-ids"

end HeaderName

variable [PatternEngine]

/-- The time to live that a mark carries: zero stands for the default. -/
def markedTtl (rule : CacheRule) : Nat :=
  if rule.ttl = 0 then defaultTtl else rule.ttl

/-- The headers a response varies by, as the header shows them. -/
def varyText (rule : CacheRule) : String :=
  Text.join ", " rule.vary

/-- Marks a response as cacheable under a rule. -/
def markCacheable (headers : Headers) (rule : CacheRule) : Headers :=
  let marked := (headers.set HeaderName.cacheable "1").set HeaderName.expires
    (toString (markedTtl rule))
  if rule.vary.isEmpty then marked else marked.set HeaderName.vary (varyText rule)

/-- Responses to the method may be marked. -/
def isMarkedMethod (method : String) : Bool :=
  method == "GET" || method == "HEAD"

/-- The headers of a response after the cache policy has been asked about a decoded path. -/
def annotateCache (headers : Headers) (ruleset : Ruleset CacheRule) (method path : String) :
    Headers :=
  if isMarkedMethod method then
    match ruleset.allowingRule method path with
    | some rule => markCacheable headers rule
    | none => headers
  else headers

/-- The headers of a response after a verdict. -/
def annotateVerdict (headers : Headers) (verdict : Verdict) : Headers :=
  if verdict.isHit then
    (headers.set HeaderName.hit "1").set HeaderName.ruleIds verdict.ruleIdText
  else headers

end Gatehouse
