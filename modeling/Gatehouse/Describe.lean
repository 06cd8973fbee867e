import Gatehouse.Bypass
import Gatehouse.Cache.Rule
import Gatehouse.Pattern.Engine
import Gatehouse.Policy.File

/-!
# Descriptions for logs

How rulesets appear in diagnostic messages: on one line, with the names of the
fields and with every text quoted.  What is described here was read with the
engine that stands in for others.
-/

namespace Gatehouse.Describe

def record (name : String) (fields : List (String × String)) : String :=
  name ++ " \x7b " ++ Text.join ", " (fields.map fun field => field.1 ++ ": " ++ field.2) ++ " \x7d"

def list (items : List String) : String :=
  "[" ++ Text.join ", " items ++ "]"

def tagged (name value : String) : String :=
  name ++ "(" ++ value ++ ")"

/-- A value that may be missing. -/
def optional {α : Type} (describe : α → String) : Option α → String
  | some value => tagged "Some" (describe value)
  | none => "None"

def bypassEntry (entry : BypassEntry) : String :=
  record "BypassEntry" [("path", Text.quoted entry.path),
    ("extra_rule", optional Text.quoted entry.ruleFile),
    ("normalized", Text.quoted entry.normalized)]

def matcher [PatternEngine] : PathMatcher → String
  | .exact text => tagged "Exact" (Text.quoted text)
  | .beginning text => tagged "Prefix" (Text.quoted text)
  | .pattern wanted => tagged "Regex" (tagged "Regex" (Text.quoted wanted.source))

def methods (methods : MethodSet) : String :=
  "\x7b" ++ Text.join ", " (methods.toList.map Text.quoted) ++ "\x7d"

def disposition : Disposition → String
  | .allow => "Allow"
  | .deny => "Deny"

def cacheRule [PatternEngine] (rule : CacheRule) : String :=
  record "CacheRule" [("disposition", disposition rule.disposition),
    ("matcher", optional matcher rule.matcher), ("methods", methods rule.methods),
    ("ttl", toString rule.ttl), ("vary", list (rule.vary.map Text.quoted))]

/-- A ruleset of a grammar. -/
def ruleset {Rule : Type} (grammar : Grammar Rule) (rule : Rule → String)
    (ruleset : Ruleset Rule) : String :=
  record "Ruleset" [("grammar", Text.quoted grammar.name),
    ("rules", list (ruleset.rules.map rule))]

/-- A path; unlike other texts it also has its apostrophes escaped. -/
def path (path : Disk.Path) : String :=
  .ofList ('"' :: (path.toList.flatMap fun character =>
    if character = '\x27' then ['\\', '\x27'] else Text.quotedChar character) ++ ['"'])

def policyFile {Rule : Type} (policy : PolicyFile Rule) : String :=
  record "PolicyFile" [("grammar", Text.quoted policy.grammar.name), ("path", path policy.path),
    ("rules", toString policy.size), ("reloads", toString policy.reloads),
    ("failed_reloads", toString policy.failedReloads)]

end Gatehouse.Describe
