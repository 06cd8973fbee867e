import Gatehouse.Report
import Gatehouse.Rules.Line

/-!
# Grammars and rulesets

A grammar says what a rule line means.  It reads leniently (a line that makes
no sense is dropped), checks strictly (every defect of a line is reported) and
writes a rule back as a line.  A ruleset is the list of rules of a text, in the
order of its lines; where rules are applied, the first that matches decides.

Both readings go line by line, so a text is read and checked as the
concatenation of its lines.
-/

namespace Gatehouse

/-- What the lines of a policy text mean. -/
structure Grammar (Rule : Type) where
  /-- The short name of the policy. -/
  name : String
  /-- The rule of a line, unless the line is dropped. -/
  parseLine : RuleLine → Option Rule
  /-- The defects of a line. -/
  checkLine : RuleLine → Report
  renderRule : Rule → String

/-- An ordered list of rules. -/
structure Ruleset (Rule : Type) where
  /-- The rules, the most important first. -/
  rules : List Rule
  deriving DecidableEq, Repr, Inhabited

namespace Ruleset

variable {Rule : Type}

def empty : Ruleset Rule :=
  ⟨[]⟩

def size (ruleset : Ruleset Rule) : Nat :=
  ruleset.rules.length

def isEmpty (ruleset : Ruleset Rule) : Bool :=
  ruleset.rules.isEmpty

end Ruleset

namespace Grammar

variable {Rule : Type}

def parse (grammar : Grammar Rule) (text : String) : Ruleset Rule :=
  ⟨(RuleLine.all text).filterMap grammar.parseLine⟩

def validate (grammar : Grammar Rule) (text : String) : Report :=
  ⟨(RuleLine.all text).flatMap fun line => (grammar.checkLine line).messages⟩

/-- Writes a ruleset, one rule a line. -/
def render (grammar : Grammar Rule) (ruleset : Ruleset Rule) : String :=
  String.join (ruleset.rules.map fun rule => grammar.renderRule rule ++ "\n")

end Grammar

end Gatehouse
