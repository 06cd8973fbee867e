import Gatehouse.RequestPath
import Gatehouse.Rules.Grammar
import Gatehouse.Text.Quoted

/-!
# Bypass policy

Which requests skip inspection.  A line holds a path and, behind it, possibly a
reference to a rule file: a word that starts with `rules/` or ends with
`.conf`.  A path alone skips inspection; a path with a reference is inspected
by that rule file instead of the default rules.  A path that ends with a slash
also covers everything below it.  The first entry that covers a request
decides, and the method plays no part.
-/

namespace Gatehouse

/-- One line of the bypass policy. -/
structure BypassEntry where
  /-- The path as written. -/
  path : String
  /-- The rule file to apply instead of the default rules. -/
  ruleFile : Option String
  deriving DecidableEq, Repr, Inhabited

/-- What happens to the inspection of a request. -/
inductive BypassAction where
  /-- The request is inspected by the default rules. -/
  | none
  /-- The request is not inspected. -/
  | bypass
  /-- The request is inspected by the named rule file. -/
  | rule (file : String)
  deriving DecidableEq, Repr, Inhabited

namespace BypassEntry

/-- The path that requests are compared with. -/
def normalized (entry : BypassEntry) : String :=
  RequestPath.normalize entry.path

/-- The entry also covers what lies below its path. -/
def isDirectory (entry : BypassEntry) : Bool :=
  Text.endsWith entry.path "/"

/-- The entry covers a normalized request path. -/
def covers (entry : BypassEntry) (request : String) : Bool :=
  RequestPath.agree request entry.normalized ||
    (entry.isDirectory && Text.startsWith request entry.normalized)

def action (entry : BypassEntry) : BypassAction :=
  match entry.ruleFile with
  | some file => .rule file
  | none => .bypass

/-- A word refers to a rule file. -/
def isRuleFile (token : String) : Bool :=
  Text.startsWith token "rules/" || Text.endsWith token ".conf"

/-- The entry of a line with a first word. -/
def ofLine? (line : RuleLine) : Option BypassEntry :=
  line.tokens.head?.map fun path => ⟨path, line.arguments.find? isRuleFile⟩

def check (line : RuleLine) : Report :=
  let encoding : List String :=
    if (Percent.decode? line.keyword).isNone then
      [Report.entry line.place
        ("path " ++ Text.quoted line.keyword ++ " has invalid percent-encoding")]
    else []
  let references : List String :=
    if (line.arguments.filter isRuleFile).length > 1 then
      [Report.entry line.place
        "more than one rule file reference (only the first would apply)"]
    else []
  ⟨encoding ++ references⟩

def render (entry : BypassEntry) : String :=
  match entry.ruleFile with
  | some file => entry.path ++ " " ++ file
  | none => entry.path

end BypassEntry

def bypassGrammar : Grammar BypassEntry where
  name := "bypass"
  parseLine := BypassEntry.ofLine?
  checkLine := BypassEntry.check
  renderRule := BypassEntry.render

namespace Ruleset

/-- What a ruleset asks for a request path: the action of the first entry that covers it. -/
def bypassAction (ruleset : Ruleset BypassEntry) (requestPath : String) : BypassAction :=
  let request := RequestPath.normalize requestPath
  match ruleset.rules.find? fun entry => entry.covers request with
  | some entry => entry.action
  | none => .none

variable {ruleset : Ruleset BypassEntry} {before behind : List BypassEntry} {entry : BypassEntry}
  {requestPath : String}

/-- The first entry that covers the path decides. -/
theorem bypassAction_of_first (rules : ruleset.rules = before ++ entry :: behind)
    (covers : entry.covers (RequestPath.normalize requestPath))
    (first : ∀ earlier ∈ before, ¬earlier.covers (RequestPath.normalize requestPath)) :
    ruleset.bypassAction requestPath = entry.action := by
  have found : ruleset.rules.find? (fun entry =>
      entry.covers (RequestPath.normalize requestPath)) = some entry := by
    apply List.find?_eq_some_iff_append.mpr
    exact ⟨covers, before, behind, rules, by simpa using first⟩
  simp only [bypassAction, found]

/-- Unless nothing is asked for, some entry covers the path and the first of them decides. -/
theorem bypassAction_cases (ruleset : Ruleset BypassEntry) (requestPath : String) :
    ((∀ entry ∈ ruleset.rules, ¬entry.covers (RequestPath.normalize requestPath)) ∧
        ruleset.bypassAction requestPath = .none) ∨
      ∃ before entry behind, ruleset.rules = before ++ entry :: behind ∧
        entry.covers (RequestPath.normalize requestPath) ∧
        (∀ earlier ∈ before, ¬earlier.covers (RequestPath.normalize requestPath)) ∧
        ruleset.bypassAction requestPath = entry.action := by
  cases found : ruleset.rules.find? (fun entry =>
      entry.covers (RequestPath.normalize requestPath)) with
  | none =>
      refine .inl ⟨by simpa using found, ?_⟩
      simp only [bypassAction, found]
  | some entry =>
      rcases List.find?_eq_some_iff_append.mp found with ⟨covers, before, behind, rules, first⟩
      have none : ∀ earlier ∈ before, ¬earlier.covers (RequestPath.normalize requestPath) := by
        simpa using first
      exact .inr ⟨before, entry, behind, rules, covers, none,
        bypassAction_of_first rules covers none⟩

end Ruleset

end Gatehouse
