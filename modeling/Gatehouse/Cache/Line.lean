import Gatehouse.Cache.Rule
import Gatehouse.Text.Decimal
import Gatehouse.Text.Quoted

/-!
# Lines of the cache policy

A line holds a keyword and `key=value` words in any order.  Lenient reading
takes the last usable value of each key; a text that is no pattern leaves the
rule without a matcher.  Strict checking reports whatever lenient
reading would pass over, and the same checks serve rules that arrive in
structured form.
-/

namespace Gatehouse.CacheRule

variable [PatternEngine]

/-- A time to live: a whole number that is not negative and fits 64 bits with a sign. -/
def ttl? (text : String) : Option Nat :=
  match Text.int64? text with
  | some value => if 0 ≤ value then some value.toNat else none
  | none => none

/-- The methods of a comma list, in capitals. -/
def methodsOf (text : String) : MethodSet :=
  .ofList ((Text.commaList text).map Text.asciiUpper)

/-- Takes one `key=value` word into account. -/
def applyOption (rule : CacheRule) (option : String × String) : CacheRule :=
  match MatchKind.ofKey? option.1 with
  | some kind =>
      if option.2 = "" then rule else { rule with matcher := PathMatcher.make? kind option.2 }
  | none =>
      if option.1 = "methods" then { rule with methods := methodsOf option.2 }
      else if option.1 = "ttl" then { rule with ttl := (ttl? option.2).getD rule.ttl }
      else if option.1 = "vary" then { rule with vary := Text.commaList option.2 }
      else rule

/-- The rule of a line, unless the line has no keyword of a rule or nothing behind it. -/
def ofLine? (line : RuleLine) : Option CacheRule :=
  if line.tokens.length < 2 then none
  else
    (Disposition.parse? line.keyword).map fun disposition =>
      line.options.foldl applyOption (plain disposition)

/-- The defect of the text of a matcher, if it has one. -/
def matchDefect (kind : MatchKind) (text : String) : Option String :=
  if text = "" then some (kind.key ++ " value required")
  else if Text.hasBlank text then some (kind.key ++ " value must not contain whitespace")
  else if kind = .pattern then (Pattern.fault? text).map PatternFault.message
  else none

def methodDefect (method : String) : Option String :=
  let name := Text.asciiUpper (Text.trim method)
  if name = "" ∨ name ∈ supportedMethods then none
  else some ("unsupported method " ++ Text.quoted name ++ " (only GET/HEAD)")

def varyDefect (header : String) : Option String :=
  let name := Text.trim header
  if name.toList.contains ',' || Text.hasBlank name then
    some ("vary header " ++ Text.quoted name ++ " must not contain ',' or whitespace")
  else none

def ttlDefect (text : String) : Option String :=
  match Text.int64? text with
  | some value => if value < 0 then some "ttl must be >= 0" else none
  | none => some ("ttl must be an integer (got " ++ Text.quoted text ++ ")")

/-- The defects of one `key=value` word. -/
def optionDefects (option : String × String) : List String :=
  match MatchKind.ofKey? option.1 with
  | some kind => (matchDefect kind option.2).toList
  | none =>
      if option.1 = "methods" then (Text.commaList option.2).filterMap methodDefect
      else if option.1 = "vary" then (Text.commaList option.2).filterMap varyDefect
      else if option.1 = "ttl" then (ttlDefect option.2).toList
      else []

/-- The defect of a number of matchers other than one. -/
def matcherCountDefect (count : Nat) : Option String :=
  if count = 0 then some "one of exact=, prefix= or regex= is required"
  else if count = 1 then none
  else some "only one of exact=, prefix= or regex= may be given"

/-- The defects of a line, in the order of its words. -/
def lineDefects (line : RuleLine) : List String :=
  let keyword :=
    if (Disposition.parse? line.keyword).isNone then
      ["kind must be ALLOW or DENY (got " ++ Text.quoted line.keyword ++ ")"]
    else []
  let matchers := line.options.filter fun option => (MatchKind.ofKey? option.1).isSome
  keyword ++ line.options.flatMap optionDefects ++ (matcherCountDefect matchers.length).toList

def check (line : RuleLine) : Report :=
  ⟨(lineDefects line).map (Report.entry line.place)⟩

/-- The word that gives a key its value. -/
def optionWord (option : String × String) : String :=
  option.1 ++ "=" ++ option.2

/-- The options that a rule is written with. -/
def optionsOf (rule : CacheRule) : List (String × String) :=
  (rule.matcher.toList.map fun matcher => (matcher.kind.key, matcher.value)) ++
    (if rule.methods.isEmpty then [] else [("methods", Text.join "," rule.methods.toList)]) ++
    [("ttl", toString rule.ttl)] ++
    (if rule.vary.isEmpty then [] else [("vary", Text.join "," rule.vary)])

/-- The words that a rule is written with. -/
def wordsOf (rule : CacheRule) : List String :=
  rule.disposition.keyword :: rule.optionsOf.map optionWord

def render (rule : CacheRule) : String :=
  Text.join " " rule.wordsOf

end Gatehouse.CacheRule

namespace Gatehouse

def cacheGrammar [PatternEngine] : Grammar CacheRule where
  name := "cache"
  parseLine := CacheRule.ofLine?
  checkLine := CacheRule.check
  renderRule := CacheRule.render

end Gatehouse
