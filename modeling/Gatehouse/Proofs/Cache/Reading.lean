import Gatehouse.Pattern.Engine
import Gatehouse.Proofs.Cache.Writing

/-!
# Lines told by their last words

A cache line is read by going through its options once, and an option overrides, passes
over or clears what was read before.  What comes out can be told without going through
anything: each field of the rule is what the last word tells that tells anything about
it, and no other word of the line matters.

A word tells something about the matcher only if it gives a text, and then even if the
text is no pattern: the rule is left without a matcher.  About the time to live it tells
something only if it gives a number that can be used.  About methods and headers it
always does, with an empty list too.
-/

namespace Gatehouse

namespace RuleLine

variable {token key value : String}

/-- The word gives a value to a key.  The key stands in front of the first `=`, in any case of
its ASCII letters. -/
def Gives (token key value : String) : Prop :=
  ∃ written, token = written ++ "=" ++ value ∧ '=' ∉ written.toList ∧
    Text.asciiLower written = key

theorem option?_eq_some_iff : option? token = some (key, value) ↔ Gives token key value := by
  constructor
  · intro read
    rcases Option.map_eq_some_iff.mp read with ⟨⟨written, _⟩, cut, texts⟩
    cases texts
    rcases Option.map_eq_some_iff.mp cut with ⟨⟨before, after⟩, found, texts⟩
    cases texts
    rcases Text.cutChars_eq_some_iff.mp found with ⟨spelled, absent⟩
    refine ⟨.ofList before, ?_, by simpa using absent, rfl⟩
    rw [← String.toList_inj, spelled]
    simp
  · rintro ⟨written, rfl, absent, rfl⟩
    exact option?_append absent value

end RuleLine

open RuleLine (Gives)

theorem Disposition.parse?_eq_some_iff {text : String} {disposition : Disposition} :
    parse? text = some disposition ↔ Text.asciiUpper text = disposition.keyword := by
  unfold parse?
  cases disposition <;> grind [keyword]

namespace CacheRule

variable {Given : Type} {tells : String → Given → Prop} {start value : Given}
  {gives : String × String → Option Given} {tokens : List String} {token : String}
  {line other : RuleLine}

/-- The field is what the last of the words says that says anything about it, and what it starts
as if none does. -/
inductive LastWord (tells : String → Given → Prop) (start : Given) : List String → Given → Prop
  | silent {tokens : List String} (silent : ∀ token ∈ tokens, ∀ value, ¬tells token value) :
      LastWord tells start tokens start
  | spoken {before behind : List String} {token : String} {value : Given}
      (spoken : tells token value) (silent : ∀ later ∈ behind, ∀ other, ¬tells later other) :
      LastWord tells start (before ++ token :: behind) value

theorem exists_lastWord (tells : String → Given → Prop) (start : Given) (tokens : List String) :
    ∃ value, LastWord tells start tokens value := by
  induction tokens with
  | nil => exact ⟨start, .silent nofun⟩
  | cons token rest ih =>
      rcases ih with ⟨value, last⟩
      cases last with
      | @spoken before behind later value spoken silent =>
          exact ⟨value, @LastWord.spoken _ _ _ (token :: before) _ _ _ spoken silent⟩
      | silent silent =>
          by_cases speaks : ∃ value, tells token value
          · rcases speaks with ⟨value, spoken⟩
            exact ⟨value, @LastWord.spoken _ _ _ [] _ _ _ spoken silent⟩
          · exact ⟨start, .silent (List.forall_mem_cons.mpr ⟨not_exists.mp speaks, silent⟩)⟩

theorem LastWord.eq_getD {read : String → Option Given}
    (reads : ∀ token value, tells token value ↔ read token = some value)
    (last : LastWord tells start tokens value) :
    value = (tokens.filterMap read).getLast?.getD start := by
  have silence : ∀ words : List String, (∀ word ∈ words, ∀ value, ¬tells word value) →
      words.filterMap read = [] := by
    intro words silent
    rw [List.filterMap_eq_nil_iff]
    intro word wordMem
    rw [Option.eq_none_iff_forall_ne_some]
    intro value given
    exact silent word wordMem value ((reads word value).mpr given)
  cases last with
  | silent silent =>
      rw [silence tokens silent]
      rfl
  | @spoken before behind token value spoken silent =>
      rw [List.filterMap_append, List.filterMap_cons_some ((reads token value).mp spoken),
        silence behind silent, List.getLast?_concat, Option.getD_some]

theorem lastWord_iff {read : String → Option Given}
    (reads : ∀ token value, tells token value ↔ read token = some value) :
    LastWord tells start tokens value ↔ value = (tokens.filterMap read).getLast?.getD start := by
  constructor
  · exact LastWord.eq_getD reads
  · rintro rfl
    rcases exists_lastWord tells start tokens with ⟨value, last⟩
    rwa [← last.eq_getD reads]

/-- What overriding option by option ends with is the last word on the field. -/
theorem lastWord_arguments_iff (reads : ∀ token value, tells token value ↔
      (RuleLine.option? token).bind gives = some value) :
    LastWord tells start line.arguments value ↔
      value = (lastGiven gives line.options).getD start := by
  rw [lastWord_iff reads, lastGiven, RuleLine.options, List.filterMap_filterMap]

/-- What a word tells about the methods: the trimmed entries of its list that are not empty, in
capitals. -/
def TellsMethods (token : String) (methods : MethodSet) : Prop :=
  ∃ text, Gives token "methods" text ∧ ∀ method, method ∈ methods.toList ↔
    ∃ entry ∈ Text.split ',' text, Text.trim entry ≠ "" ∧
      method = Text.asciiUpper (Text.trim entry)

/-- What a word tells about the time to live: nothing unless it gives an integer that is not
negative and fits 64 bits with a sign. -/
def TellsTtl (token : String) (ttl : Nat) : Prop :=
  ∃ text, Gives token "ttl" text ∧ Text.WritesInteger text.toList ttl ∧ ttl < Nat.pow 2 63

/-- What a word tells about the headers to vary by: the trimmed entries of its list that are not
empty, in order. -/
def TellsVary (token : String) (headers : List String) : Prop :=
  ∃ text, Gives token "vary" text ∧
    headers = ((Text.split ',' text).map Text.trim).filter fun entry => entry ≠ ""

theorem bind_option?_eq_some_iff :
    (RuleLine.option? token).bind gives = some value ↔
      ∃ key text, Gives token key text ∧ gives (key, text) = some value := by
  simp only [Option.bind_eq_some_iff, Prod.exists, RuleLine.option?_eq_some_iff]

theorem commaList_eq (text : String) :
    Text.commaList text =
      ((Text.split ',' text).map Text.trim).filter fun entry => entry ≠ "" := by
  rw [Text.commaList]
  apply List.filter_congr
  intro entry _
  rw [Bool.eq_iff_iff]
  simp

theorem mem_methodsOf {text method : String} :
    method ∈ (methodsOf text).toList ↔ ∃ entry ∈ Text.split ',' text,
      Text.trim entry ≠ "" ∧ method = Text.asciiUpper (Text.trim entry) := by
  simp only [methodsOf, MethodSet.mem_ofList, commaList_eq, List.mem_map, List.mem_filter,
    decide_eq_true_eq]
  constructor
  · rintro ⟨_, ⟨⟨entry, entryMem, rfl⟩, named⟩, rfl⟩
    exact ⟨entry, entryMem, named, rfl⟩
  · rintro ⟨entry, entryMem, named, rfl⟩
    exact ⟨_, ⟨⟨entry, entryMem, rfl⟩, named⟩, rfl⟩

/-- An option of one key speaks about a field, with what is read off its text. -/
theorem bind_option?_keyed_iff {key : String} {read : String → Option Given} :
    (RuleLine.option? token).bind (fun option => if option.1 = key then read option.2 else none) =
        some value ↔
      ∃ text, Gives token key text ∧ read text = some value := by
  rw [bind_option?_eq_some_iff]
  constructor
  · rintro ⟨_, text, gives, given⟩
    rcases Option.ite_none_right_eq_some.mp given with ⟨rfl, found⟩
    exact ⟨text, gives, found⟩
  · rintro ⟨text, gives, given⟩
    exact ⟨key, text, gives, (if_pos rfl).trans given⟩

theorem tellsMethods_iff (token : String) (methods : MethodSet) :
    TellsMethods token methods ↔
      (RuleLine.option? token).bind methodsGiven = some methods := by
  have same : ∀ text, some (methodsOf text) = some methods ↔
      ∀ method, method ∈ methods.toList ↔ ∃ entry ∈ Text.split ',' text,
        Text.trim entry ≠ "" ∧ method = Text.asciiUpper (Text.trim entry) := by
    intro text
    rw [Option.some.injEq]
    constructor
    · rintro rfl method
      exact mem_methodsOf
    · intro members
      exact MethodSet.ext_of_mem fun method => mem_methodsOf.trans (members method).symm
  exact (exists_congr fun text => and_congr_right fun _ => (same text).symm).trans
    bind_option?_keyed_iff.symm

theorem tellsTtl_iff (token : String) (ttl : Nat) :
    TellsTtl token ttl ↔ (RuleLine.option? token).bind ttlGiven = some ttl := by
  have same : ∀ text, ttl? text = some ttl ↔
      Text.WritesInteger text.toList ttl ∧ ttl < Nat.pow 2 63 := by
    intro text
    rw [ttl?_eq_some_iff, Text.int64?_eq_some_natCast_iff]
  exact (exists_congr fun text => and_congr_right fun _ => (same text).symm).trans
    bind_option?_keyed_iff.symm

theorem tellsVary_iff (token : String) (headers : List String) :
    TellsVary token headers ↔ (RuleLine.option? token).bind varyGiven = some headers := by
  have same : ∀ text, some (Text.commaList text) = some headers ↔
      headers = ((Text.split ',' text).map Text.trim).filter fun entry => entry ≠ "" := by
    intro text
    rw [Option.some.injEq, commaList_eq, eq_comm]
  exact (exists_congr fun text => and_congr_right fun _ => (same text).symm).trans
    bind_option?_keyed_iff.symm

/-- The word gives a value to one of the keys that rules are told with. -/
def Matters (token : String) : Prop :=
  ∃ key ∈ ["exact", "prefix", "regex", "methods", "ttl", "vary"], ∃ text, Gives token key text

instance : DecidablePred Matters := fun token =>
  decidable_of_iff
    ((RuleLine.option? token).any fun option =>
      option.1 ∈ ["exact", "prefix", "regex", "methods", "ttl", "vary"]) <| by
    simp only [Option.any_eq_true, decide_eq_true_eq, Prod.exists, RuleLine.option?_eq_some_iff]
    constructor
    · rintro ⟨key, text, gives, known⟩
      exact ⟨key, known, text, gives⟩
    · rintro ⟨key, known, text, gives⟩
      exact ⟨key, text, gives, known⟩

theorem lastWord_filter_iff {read : String → Option Given}
    (reads : ∀ token value, tells token value ↔ read token = some value)
    (matters : ∀ token value, tells token value → Matters token) :
    LastWord tells start (tokens.filter fun token => Matters token) value ↔
      LastWord tells start tokens value := by
  rw [lastWord_iff reads, lastWord_iff reads, List.filterMap_filter]
  have same : ∀ token, (if decide (Matters token) then read token else none) = read token := by
    intro token
    split
    case isTrue => rfl
    case isFalse mute =>
      rw [decide_eq_true_iff] at mute
      refine (Option.eq_none_iff_forall_ne_some.mpr fun value given => ?_).symm
      exact mute (matters token value ((reads token value).mpr given))
  rw [List.filterMap_congr fun token _ => same token]

theorem matters_of_keyed {key : String} {of : String → Prop}
    (known : key ∈ ["exact", "prefix", "regex", "methods", "ttl", "vary"])
    (tells : ∃ text, Gives token key text ∧ of text) : Matters token := by
  rcases tells with ⟨text, gives, -⟩
  exact ⟨key, known, text, gives⟩

section

variable [PatternEngine] {rule : CacheRule}

/-- What a word tells about the matcher: nothing without a text, and no matcher where the text is
no pattern. -/
inductive TellsMatcher (token : String) : Option PathMatcher → Prop
  | exact {text : String} (gives : Gives token "exact" text) (nonempty : text ≠ "") :
      TellsMatcher token (some (.exact text))
  | beginning {text : String} (gives : Gives token "prefix" text) (nonempty : text ≠ "") :
      TellsMatcher token (some (.beginning text))
  | pattern {text : String} {wanted : Pattern} (gives : Gives token "regex" text)
      (nonempty : text ≠ "") (compiles : Pattern.ofSource? text = some wanted) :
      TellsMatcher token (some (.pattern wanted))
  | broken {text : String} (gives : Gives token "regex" text) (nonempty : text ≠ "")
      (fails : Pattern.ofSource? text = none) : TellsMatcher token none

theorem tellsMatcher_iff (token : String) (matcher : Option PathMatcher) :
    TellsMatcher token matcher ↔
      (RuleLine.option? token).bind matcherGiven = some matcher := by
  rw [bind_option?_eq_some_iff]
  constructor
  · intro tells
    have made : ∀ (kind : MatchKind) {text : String}, text ≠ "" →
        matcherGiven (kind.key, text) = some (PathMatcher.make? kind text) := by
      intro kind text nonempty
      rw [matcherGiven, MatchKind.ofKey?_eq_some_iff.mpr rfl, Option.bind_some, if_neg nonempty]
    cases tells with
    | exact gives nonempty => exact ⟨_, _, gives, made .exact nonempty⟩
    | beginning gives nonempty => exact ⟨_, _, gives, made .beginning nonempty⟩
    | pattern gives nonempty compiles =>
        refine ⟨_, _, gives, (made .pattern nonempty).trans ?_⟩
        rw [PathMatcher.make?, compiles, Option.map_some]
    | broken gives nonempty fails =>
        refine ⟨_, _, gives, (made .pattern nonempty).trans ?_⟩
        rw [PathMatcher.make?, fails, Option.map_none]
  · rintro ⟨key, text, gives, given⟩
    rcases Option.bind_eq_some_iff.mp given with ⟨kind, found, given⟩
    cases MatchKind.ofKey?_eq_some_iff.mp found
    rcases Option.ite_none_left_eq_some.mp given with ⟨nonempty, ⟨⟩⟩
    cases kind with
    | exact => exact .exact gives nonempty
    | beginning => exact .beginning gives nonempty
    | pattern =>
        rw [PathMatcher.make?]
        cases compiles : Pattern.ofSource? text with
        | none => exact .broken gives nonempty compiles
        | some wanted => exact .pattern gives nonempty compiles

/-- The rule is what the words of the line tell: the keyword, and the last word on each field. -/
structure Tells (line : RuleLine) (rule : CacheRule) : Prop where
  disposition : Text.asciiUpper line.keyword = rule.disposition.keyword
  matcher : LastWord TellsMatcher none line.arguments rule.matcher
  methods : LastWord TellsMethods .empty line.arguments rule.methods
  ttl : LastWord TellsTtl 600 line.arguments rule.ttl
  vary : LastWord TellsVary [] line.arguments rule.vary

theorem readFrom_iff_tells (long : 2 ≤ line.tokens.length) :
    ReadFrom line rule ↔ Tells line rule := by
  have matcher := @lastWord_arguments_iff _ _ none rule.matcher _ line tellsMatcher_iff
  have methods := @lastWord_arguments_iff _ _ .empty rule.methods _ line tellsMethods_iff
  have ttl := @lastWord_arguments_iff _ _ 600 rule.ttl _ line tellsTtl_iff
  have vary := @lastWord_arguments_iff _ _ [] rule.vary _ line tellsVary_iff
  constructor
  · intro read
    exact ⟨Disposition.parse?_eq_some_iff.mp read.disposition, matcher.mpr read.matcher,
      methods.mpr read.methods, ttl.mpr read.ttl, vary.mpr read.vary⟩
  · intro tells
    exact ⟨long, Disposition.parse?_eq_some_iff.mpr tells.disposition, matcher.mp tells.matcher,
      methods.mp tells.methods, ttl.mp tells.ttl, vary.mp tells.vary⟩

theorem TellsMatcher.matters {matcher : Option PathMatcher}
    (tells : TellsMatcher token matcher) : Matters token := by
  cases tells with
  | exact gives => exact ⟨"exact", by decide, _, gives⟩
  | beginning gives => exact ⟨"prefix", by decide, _, gives⟩
  | pattern gives => exact ⟨"regex", by decide, _, gives⟩
  | broken gives => exact ⟨"regex", by decide, _, gives⟩

/-- Of the words of a line, those that matter tell the rule. -/
theorem tells_iff_of_words : Tells line rule ↔
    Text.asciiUpper line.keyword = rule.disposition.keyword ∧
      LastWord TellsMatcher none (line.arguments.filter fun token => Matters token)
        rule.matcher ∧
      LastWord TellsMethods .empty (line.arguments.filter fun token => Matters token)
        rule.methods ∧
      LastWord TellsTtl 600 (line.arguments.filter fun token => Matters token) rule.ttl ∧
      LastWord TellsVary [] (line.arguments.filter fun token => Matters token) rule.vary := by
  rw [lastWord_filter_iff tellsMatcher_iff fun _ _ => TellsMatcher.matters,
    lastWord_filter_iff tellsMethods_iff fun _ _ => matters_of_keyed (by decide),
    lastWord_filter_iff tellsTtl_iff fun _ _ => matters_of_keyed (by decide),
    lastWord_filter_iff tellsVary_iff fun _ _ => matters_of_keyed (by decide)]
  constructor
  · intro tells
    exact ⟨tells.disposition, tells.matcher, tells.methods, tells.ttl, tells.vary⟩
  · rintro ⟨disposition, matcher, methods, ttl, vary⟩
    exact ⟨disposition, matcher, methods, ttl, vary⟩

theorem tells_congr (keyword : other.keyword = line.keyword)
    (same : (other.arguments.filter fun token => Matters token) =
      line.arguments.filter fun token => Matters token) :
    Tells other rule ↔ Tells line rule := by
  rw [tells_iff_of_words, keyword, same, ← tells_iff_of_words]

/-- What can be relied on about the reading of a line. -/
structure GoesByLastWords (line : RuleLine) : Prop where
  /-- A line is dropped exactly if nothing stands behind its first word or the first word is no
  keyword. -/
  dropped : cacheGrammar.parseLine line = none ↔
    line.tokens.length < 2 ∨ Text.asciiUpper line.keyword ∉ ["ALLOW", "DENY"]
  /-- Any other line is read as the rule that its words tell. -/
  rule : 2 ≤ line.tokens.length → ∀ rule, cacheGrammar.parseLine line = some rule ↔ Tells line rule
  /-- Lines with the same words that matter are read alike. -/
  others : ∀ other : RuleLine, 2 ≤ line.tokens.length → 2 ≤ other.tokens.length →
    other.keyword = line.keyword →
    (other.arguments.filter fun token => Matters token) =
      (line.arguments.filter fun token => Matters token) →
    cacheGrammar.parseLine other = cacheGrammar.parseLine line

theorem parseLine_eq_some_iff (long : 2 ≤ line.tokens.length) :
    cacheGrammar.parseLine line = some rule ↔ Tells line rule :=
  ofLine?_eq_some_iff.trans (readFrom_iff_tells long)

theorem goes_by_last_words (line : RuleLine) : GoesByLastWords line := by
  constructor
  case dropped =>
      have keyword : Disposition.parse? line.keyword = none ↔
          Text.asciiUpper line.keyword ∉ ["ALLOW", "DENY"] := by
        unfold Disposition.parse?
        grind
      change ofLine? line = none ↔ _
      rw [ofLine?, ← keyword]
      by_cases short : line.tokens.length < 2 <;> simp [short]
  case rule =>
      intro long rule
      exact parseLine_eq_some_iff long
  case others =>
      intro other long otherLong keyword same
      apply Option.ext
      intro rule
      rw [parseLine_eq_some_iff otherLong, parseLine_eq_some_iff long, tells_congr keyword same]

end

/-- A line with a keyword in small letters, a matcher that is overridden, one without a text, a
time to live that cannot be used, two lists of methods, and words that tell nothing. -/
example : cacheGrammar.parseLine ⟨4, ["allow", "PREFIX=/a=b", "exact=/c", "regex=", "ttl=9",
    "ttl=x", "methods=post", "methods=get,,Head", "page=1", "vary"]⟩ =
      some ⟨.allow, some (.exact "/c"), .ofList ["GET", "HEAD"], 9, []⟩ := by
  decide +kernel

end CacheRule

end Gatehouse
