import Gatehouse.Http.Message

/-!
# Inspection

What the gate asks of an inspection engine and what it is told.  The engine
itself is a parameter: any function from inspections to verdicts.
-/

namespace Gatehouse

open Http (Headers Target)

/-- What an engine gets to see of a request. -/
structure Inspection where
  requestId : String
  method : String
  target : Target
  headers : Headers
  /-- The rule file to apply instead of the default rules. -/
  ruleFile : Option String
  deriving DecidableEq, Repr

/-- What an engine makes of a request. -/
structure Verdict where
  /-- The request must not pass. -/
  blocked : Bool := false
  /-- The rules that matched, whether they block or not. -/
  ruleIds : List String := []
  deriving DecidableEq, Repr, Inhabited

namespace Verdict

def isHit (verdict : Verdict) : Bool :=
  !verdict.ruleIds.isEmpty

/-- The rules that matched, each once, in the order in which they were first named. -/
def distinctRuleIds (verdict : Verdict) : List String :=
  verdict.ruleIds.foldl (fun seen id => if seen.contains id then seen else seen ++ [id]) []

/-- The rules that matched, as a header shows them. -/
def ruleIdText (verdict : Verdict) : String :=
  Text.join "," verdict.distinctRuleIds

end Verdict

/-- An inspection engine. -/
abbrev Inspector := Inspection → Verdict

namespace Inspector

/-- The engine that never blocks and never matches. -/
def passThrough : Inspector :=
  fun _ => {}

end Inspector

end Gatehouse
