import Gatehouse.Cache.Line
import Gatehouse.Proofs.Text.Words

/-!
# What the options of a cache line say

Reading a line goes through its options and overrides what was read before.  So
each field of the rule is what the last of the options says that says anything
about it, or what a rule starts with if none does.  `ReadFrom` states the fields
of a rule in this way, with no order of reading, and a line is read as a rule
exactly when it states the fields of the rule.
-/

namespace Gatehouse

open Text (IsPlain IsWord)

namespace RuleLine

variable {line : RuleLine} {key : String}

theorem option?_append (absent : '=' ∉ key.toList) (value : String) :
    option? (key ++ "=" ++ value) = some (Text.asciiLower key, value) := by
  have spelled : (key ++ "=" ++ value).toList = key.toList ++ '=' :: value.toList := by
    simp
  rw [option?, Text.cut, spelled, Text.cutChars_append absent]
  simp

theorem isPlain_of_mem_options {option : String × String}
    (words : ∀ token ∈ line.tokens, IsWord token.toList) (optionMem : option ∈ line.options) :
    IsPlain option.2.toList := by
  rcases List.mem_filterMap.mp optionMem with ⟨token, tokenMem, read⟩
  rcases Option.map_eq_some_iff.mp read with ⟨⟨_, _⟩, cut, rfl⟩
  rcases Option.map_eq_some_iff.mp cut with ⟨⟨before, after⟩, found, texts⟩
  cases texts
  intro character characterMem
  rw [String.toList_ofList] at characterMem
  exact (words token (List.mem_of_mem_tail tokenMem)).plain character
    (Text.mem_of_cutChars found characterMem)

end RuleLine

theorem MatchKind.ofKey?_eq_some_iff {key : String} {kind : MatchKind} :
    ofKey? key = some kind ↔ key = kind.key := by
  constructor
  · unfold ofKey?
    grind [MatchKind.key]
  · rintro rfl
    cases kind <;> rfl

/-- The keys of the options that are no matchers. -/
def otherKeys : List String :=
  ["methods", "ttl", "vary"]

theorem MatchKind.ofKey?_eq_none {key : String} (other : key ∈ otherKeys) : ofKey? key = none := by
  revert key
  decide

namespace PathMatcher

variable [PatternEngine] {matcher : PathMatcher} {kind : MatchKind} {text : String}

theorem make?_self (matcher : PathMatcher) : make? matcher.kind matcher.value = some matcher := by
  cases matcher with
  | pattern wanted => simp [make?, kind, value]
  | _ => rfl

theorem kind_of_make? (made : make? kind text = some matcher) : matcher.kind = kind := by
  cases kind with
  | pattern =>
      rcases Option.map_eq_some_iff.mp made with ⟨wanted, -, rfl⟩
      rfl
  | _ =>
      cases made
      rfl

theorem value_of_make? (made : make? kind text = some matcher) : matcher.value = text := by
  cases kind with
  | pattern =>
      rcases Option.map_eq_some_iff.mp made with ⟨wanted, found, rfl⟩
      exact Pattern.source_of_ofSource? found
  | _ =>
      cases made
      rfl

end PathMatcher

namespace CacheRule

variable {options : List (String × String)}

theorem ttl?_eq_some_iff {text : String} {ttl : Nat} :
    ttl? text = some ttl ↔ Text.int64? text = some (ttl : Int) := by
  unfold ttl?
  cases Text.int64? text with
  | none => simp
  | some value =>
      simp only [Option.ite_none_right_eq_some, Option.some.injEq]
      omega

theorem key_ne_of_ofKey? {key : String} {kind : MatchKind}
    (found : MatchKind.ofKey? key = some kind) :
    key ≠ "methods" ∧ key ≠ "ttl" ∧ key ≠ "vary" := by
  have known : key ∉ otherKeys := by
    intro other
    rw [MatchKind.ofKey?_eq_none other] at found
    cases found
  simpa [otherKeys] using known

/-- What the last of the options says that says anything. -/
def lastGiven {Given : Type} (gives : String × String → Option Given)
    (options : List (String × String)) : Option Given :=
  (options.filterMap gives).getLast?

/-- What holds of the start and of whatever an option gives holds of the last word. -/
theorem getD_lastGiven {Given : Type} {gives : String × String → Option Given}
    {start : Given} (P : Given → Prop) (atStart : P start)
    (given : ∀ option ∈ options, ∀ value, gives option = some value → P value) :
    P ((lastGiven gives options).getD start) := by
  cases last : lastGiven gives options with
  | none => exact atStart
  | some value =>
      rcases List.mem_filterMap.mp (List.mem_of_getLast? last) with ⟨option, optionMem, gives⟩
      exact given option optionMem value gives

section Engine

variable [PatternEngine] {line : RuleLine} {rule : CacheRule}

/-- What an option says about the matcher: nothing without a text, and no matcher where the text
is no pattern. -/
def matcherGiven (option : String × String) : Option (Option PathMatcher) :=
  (MatchKind.ofKey? option.1).bind fun kind =>
    if option.2 = "" then none else some (PathMatcher.make? kind option.2)

/-- What an option says about the methods. -/
def methodsGiven (option : String × String) : Option MethodSet :=
  if option.1 = "methods" then some (methodsOf option.2) else none

/-- What an option says about the time to live: nothing unless it is a usable number. -/
def ttlGiven (option : String × String) : Option Nat :=
  if option.1 = "ttl" then ttl? option.2 else none

/-- What an option says about the headers to vary by. -/
def varyGiven (option : String × String) : Option (List String) :=
  if option.1 = "vary" then some (Text.commaList option.2) else none

/-- A field that each option overrides or keeps ends as the last option overrides it. -/
theorem foldl_applyOption {Given : Type} {field : CacheRule → Given}
    {gives : String × String → Option Given}
    (overrides : ∀ rule option, field (applyOption rule option) =
      (gives option).getD (field rule)) (rule : CacheRule) (options : List (String × String)) :
    field (options.foldl applyOption rule) = (lastGiven gives options).getD (field rule) := by
  induction options generalizing rule with
  | nil => rfl
  | cons option rest ih =>
      rw [List.foldl_cons, ih, overrides, lastGiven, lastGiven]
      cases given : gives option with
      | none => rw [List.filterMap_cons_none given, Option.getD_none]
      | some value =>
          rw [List.filterMap_cons_some given, List.getLast?_cons, Option.getD_some]
          cases (rest.filterMap gives).getLast? <;> rfl

theorem applyOption_eq (rule : CacheRule) (option : String × String) :
    applyOption rule option =
      { disposition := rule.disposition
        matcher := (matcherGiven option).getD rule.matcher
        methods := (methodsGiven option).getD rule.methods
        ttl := (ttlGiven option).getD rule.ttl
        vary := (varyGiven option).getD rule.vary } := by
  unfold applyOption matcherGiven methodsGiven ttlGiven varyGiven
  cases found : MatchKind.ofKey? option.1 with
  | none =>
      rcases rule with ⟨disposition, matcher, methods, ttl, vary⟩
      grind
  | some kind =>
      rcases key_ne_of_ofKey? found with ⟨noMethods, noTtl, noVary⟩
      simp only [Option.bind_some, if_neg noMethods, if_neg noTtl, if_neg noVary, Option.getD_none]
      split <;> rfl

/-- The line states the fields of the rule. -/
structure ReadFrom (line : RuleLine) (rule : CacheRule) : Prop where
  long : 2 ≤ line.tokens.length
  disposition : Disposition.parse? line.keyword = some rule.disposition
  matcher : rule.matcher = (lastGiven matcherGiven line.options).getD none
  methods : rule.methods = (lastGiven methodsGiven line.options).getD .empty
  ttl : rule.ttl = (lastGiven ttlGiven line.options).getD defaultTtl
  vary : rule.vary = (lastGiven varyGiven line.options).getD []

theorem ReadFrom.unique {other : CacheRule} (read : ReadFrom line rule)
    (also : ReadFrom line other) : rule = other := by
  rcases rule with ⟨disposition, matcher, methods, ttl, vary⟩
  rcases other with ⟨otherDisposition, otherMatcher, otherMethods, otherTtl, otherVary⟩
  have sameDisposition := Option.some.inj (read.disposition.symm.trans also.disposition)
  rw [CacheRule.mk.injEq]
  exact ⟨sameDisposition, read.matcher.trans also.matcher.symm,
    read.methods.trans also.methods.symm, read.ttl.trans also.ttl.symm,
    read.vary.trans also.vary.symm⟩

theorem readFrom_foldl {disposition : Disposition} (long : 2 ≤ line.tokens.length)
    (keyword : Disposition.parse? line.keyword = some disposition) :
    ReadFrom line (line.options.foldl applyOption (plain disposition)) where
  long := long
  disposition := by
    have kept := @foldl_applyOption _ _ CacheRule.disposition (fun _ => none)
      (fun rule option => by rw [applyOption_eq]; rfl) (plain disposition) line.options
    have nothing : lastGiven (fun _ => (none : Option Disposition)) line.options = none := by
      simp [lastGiven]
    rw [kept, nothing]
    exact keyword
  matcher := foldl_applyOption (fun rule option =>
    congrArg CacheRule.matcher (applyOption_eq rule option)) (plain disposition) line.options
  methods := foldl_applyOption (fun rule option =>
    congrArg CacheRule.methods (applyOption_eq rule option)) (plain disposition) line.options
  ttl := foldl_applyOption (fun rule option =>
    congrArg CacheRule.ttl (applyOption_eq rule option)) (plain disposition) line.options
  vary := foldl_applyOption (fun rule option =>
    congrArg CacheRule.vary (applyOption_eq rule option)) (plain disposition) line.options

/-- A line is read as the rule whose fields it states, and as no rule if there is none. -/
theorem ofLine?_eq_some_iff : ofLine? line = some rule ↔ ReadFrom line rule := by
  constructor
  case mp =>
      intro read
      rw [ofLine?] at read
      split at read
      · cases read
      · rcases Option.map_eq_some_iff.mp read with ⟨disposition, keyword, rfl⟩
        exact readFrom_foldl (by omega) keyword
  case mpr =>
      intro read
      rw [ofLine?, if_neg (by have long := read.long; omega), read.disposition, Option.map_some,
        (readFrom_foldl read.long read.disposition).unique read]

end Engine

end CacheRule

end Gatehouse
