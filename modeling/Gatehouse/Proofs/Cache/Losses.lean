import Gatehouse.Proofs.Cache.Checking
import Gatehouse.Proofs.Rules.Writing

/-!
# What lenient reading loses, strict checking reports

Lenient reading never fails.  It drops lines, leaves rules without a matcher and
passes over values that it cannot use.  `Loses` lists what can be lost of a line,
and strict checking has a message about every such line.

So a text without a message loses nothing: there is one rule for each line that
means something, and `Faithful` is what the rule has from the line.
-/

namespace Gatehouse

open Text (IsEntry IsPlain IsWord)

namespace CacheRule

variable [PatternEngine] {line : RuleLine} {rule : CacheRule} {options : List (String × String)}
  {text : String}

/-- Reading the line drops it, leaves its rule without a matcher, or passes over a time to live
or a matcher that the line gives. -/
inductive Loses (line : RuleLine) : Prop
  | dropped (unread : ofLine? line = none)
  | unmatched {rule : CacheRule} (read : ofLine? line = some rule) (without : rule.matcher = none)
  | unusableTtl {value : String} (optionMem : ("ttl", value) ∈ line.options)
      (unusable : ttl? value = none)
  | emptyMatcher {kind : MatchKind} (optionMem : (kind.key, "") ∈ line.options)
  | oneOfSeveral (several : 1 < (matchersOf line.options).length)

/-- The value of the last option with a key. -/
def lastValue (key : String) (options : List (String × String)) : Option String :=
  (options.filter fun option => option.1 = key).getLast?.map Prod.snd

/-- The rule has from the line what the line states. -/
structure Faithful (line : RuleLine) (rule : CacheRule) : Prop where
  disposition : Disposition.parse? line.keyword = some rule.disposition
  /-- The matcher is the only one of the line. -/
  matcher : ∃ matcher, rule.matcher = some matcher ∧
    matchersOf line.options = [(matcher.kind.key, matcher.value)]
  methods : ∀ method ∈ rule.methods.toList, method ∈ supportedMethods
  /-- The time to live is the last that the line gives. -/
  ttl : ∀ value, lastValue "ttl" line.options = some value →
    Text.int64? value = some (rule.ttl : Int)
  noTtl : lastValue "ttl" line.options = none → rule.ttl = defaultTtl

theorem matcherGiven_eq_of_matchersOf {option : String × String}
    (single : matchersOf options = [option]) :
    lastGiven matcherGiven options = matcherGiven option := by
  have others : options.filterMap matcherGiven = (matchersOf options).filterMap matcherGiven := by
    rw [matchersOf, List.filterMap_filter]
    refine List.filterMap_congr fun option _ => ?_
    unfold matcherGiven
    cases MatchKind.ofKey? option.1 <;> simp
  rw [lastGiven, others, single]
  cases given : matcherGiven option <;> simp [given]

theorem ttlGiven_eq_of_usable (usable : ∀ option ∈ options, IsUsable option) :
    lastGiven ttlGiven options = (lastValue "ttl" options).bind ttl? := by
  have others : options.filterMap ttlGiven =
      (options.filter fun option => option.1 = "ttl").filterMap fun option => ttl? option.2 := by
    rw [List.filterMap_filter]
    refine List.filterMap_congr fun option _ => ?_
    simp [ttlGiven]
  have each : ∀ option ∈ options.filter fun option => option.1 = "ttl",
      ∃ ttl, ttl? option.2 = some ttl := by
    intro option optionMem
    rcases List.mem_filter.mp optionMem with ⟨optionMem, key⟩
    exact (usable option optionMem).ttl (of_decide_eq_true key)
  rw [lastGiven, others, lastValue]
  rcases (options.filter fun option => option.1 = "ttl").eq_nil_or_concat' with
    nothing | ⟨earlier, last, written⟩
  · rw [nothing]
    rfl
  · rcases each last (by simp [written]) with ⟨ttl, read⟩
    have given : [last].filterMap (fun option => ttl? option.2) = [ttl] := by simp [read]
    rw [written, List.filterMap_append, given, List.getLast?_concat, List.getLast?_concat,
      Option.map_some, Option.bind_some, read]

/-- A sound line is read as a rule that has from it what it states. -/
theorem IsSound.exists_faithful (sound : IsSound line) (content : RuleLine.IsContent line.tokens) :
    ∃ rule, ofLine? line = some rule ∧ Faithful line rule := by
  rcases sound.keyword with ⟨disposition, keyword⟩
  rcases List.length_eq_one_iff.mp sound.matcher with ⟨⟨key, value⟩, single⟩
  have optionMem : (key, value) ∈ line.options ∧ (MatchKind.ofKey? key).isSome :=
    List.mem_filter.mp (single ▸ List.mem_singleton_self _)
  -- The one matcher stands behind the keyword, so there are two words.
  have long : 2 ≤ line.tokens.length := by
    have arguments : line.tokens.tail ≠ [] := by
      intro nothing
      have options : line.options = [] := by rw [RuleLine.options, RuleLine.arguments, nothing]; rfl
      rw [options] at optionMem
      cases optionMem.1
    have positive := List.length_pos_iff.mpr arguments
    rw [List.length_tail] at positive
    omega
  have read := readFrom_foldl long keyword
  refine ⟨_, ofLine?_eq_some_iff.mpr read, ?_⟩
  generalize line.options.foldl applyOption (plain disposition) = rule at read
  constructor
  case disposition => exact read.disposition
  case matcher =>
      rcases Option.isSome_iff_exists.mp optionMem.2 with ⟨kind, found⟩
      have named := MatchKind.ofKey?_eq_some_iff.mp found
      subst named
      rcases (sound.usable _ optionMem.1).matcher kind rfl with ⟨isWord, matcher, made⟩
      have nonempty : value ≠ "" := by simpa using isWord.nonempty
      have given : matcherGiven (kind.key, value) = some (some matcher) := by
        rw [matcherGiven, found, Option.bind_some, if_neg nonempty, made]
      refine ⟨matcher, ?_, ?_⟩
      · rw [read.matcher, matcherGiven_eq_of_matchersOf single, given, Option.getD_some]
      · rw [single, PathMatcher.kind_of_make? made, PathMatcher.value_of_make? made]
  case methods =>
      rw [read.methods]
      refine getD_lastGiven (fun methods : MethodSet =>
        ∀ method ∈ methods.toList, method ∈ supportedMethods)
        (by simp [MethodSet.empty]) fun option optionMem methods gives method methodMem => ?_
      rcases Option.ite_none_right_eq_some.mp gives with ⟨key, listed⟩
      cases listed
      rw [methodsOf, MethodSet.mem_ofList] at methodMem
      rcases List.mem_map.mp methodMem with ⟨entry, entryMem, rfl⟩
      -- A blank name would be passed over, but no entry of a comma list is blank.
      have isEntry := Text.isEntry_of_mem_commaList
        (RuleLine.isPlain_of_mem_options content.words optionMem) entryMem
      have known := (sound.usable option optionMem).methods key entry entryMem
      rw [isEntry.plain.trim_eq, List.mem_cons] at known
      exact known.resolve_left (by simpa using isEntry.asciiUpper.nonempty)
  case ttl =>
      intro value last
      rcases Option.map_eq_some_iff.mp last with ⟨option, final, rfl⟩
      rcases List.mem_filter.mp (List.mem_of_getLast? final) with ⟨optionMem, key⟩
      rcases (sound.usable option optionMem).ttl (of_decide_eq_true key) with ⟨ttl, usable⟩
      rw [read.ttl, ttlGiven_eq_of_usable sound.usable, last, Option.bind_some, usable,
        Option.getD_some]
      exact ttl?_eq_some_iff.mp usable
  case noTtl =>
      intro nothing
      rw [read.ttl, ttlGiven_eq_of_usable sound.usable, nothing]
      rfl

theorem IsSound.not_loses (sound : IsSound line) (content : RuleLine.IsContent line.tokens) :
    ¬Loses line := by
  rcases sound.exists_faithful content with ⟨rule, read, faithful⟩
  rcases faithful.matcher with ⟨matcher, given, -⟩
  intro loses
  cases loses with
  | dropped unread =>
      rw [read] at unread
      cases unread
  | unmatched readAs without =>
      rw [read] at readAs
      cases readAs
      rw [given] at without
      cases without
  | unusableTtl optionMem unusable =>
      rcases (sound.usable _ optionMem).ttl rfl with ⟨ttl, usable⟩
      rw [unusable] at usable
      cases usable
  | @emptyMatcher kind optionMem =>
      exact ((sound.usable _ optionMem).matcher kind rfl).1.nonempty rfl
  | oneOfSeveral several => exact absurd sound.matcher (Nat.ne_of_gt several)

theorem exists_message_of_not_isSound (lineMem : line ∈ RuleLine.all text)
    (unsound : ¬IsSound line) :
    ∃ message, Report.entry line.place message ∈ (cacheGrammar.validate text).messages := by
  rw [← lineDefects_eq_nil_iff] at unsound
  exact cacheGrammar_judgesWords.exists_message lineMem unsound

theorem isSound_of_isOk (clean : (cacheGrammar.validate text).isOk)
    (lineMem : line ∈ RuleLine.all text) : IsSound line :=
  lineDefects_eq_nil_iff.mp (cacheGrammar_judgesWords.isOk_validate_iff.mp clean line lineMem)

/-- Strict checking of a text reports whatever lenient reading loses of it. -/
structure ReportsLosses (text : String) : Prop where
  /-- A line of which something is lost has a message under its number. -/
  reported : ∀ line ∈ RuleLine.all text, Loses line →
    ∃ message, Report.entry line.place message ∈ (cacheGrammar.validate text).messages
  /-- A text without messages is read line by line, and each rule has what its line states. -/
  faithful : (cacheGrammar.validate text).isOk →
    List.Forall₂ Faithful (RuleLine.all text) (cacheGrammar.parse text).rules

theorem validate_reportsLosses (text : String) : ReportsLosses text := by
  constructor
  case reported =>
      intro line lineMem loses
      refine exists_message_of_not_isSound lineMem fun sound => ?_
      exact sound.not_loses (RuleLine.isContent_of_mem_all lineMem) loses
  case faithful =>
      intro clean
      have each : ∀ line ∈ RuleLine.all text,
          ∃ rule, ofLine? line = some rule ∧ Faithful line rule :=
        fun line lineMem => (isSound_of_isOk clean lineMem).exists_faithful
          (RuleLine.isContent_of_mem_all lineMem)
      change List.Forall₂ Faithful (RuleLine.all text) ((RuleLine.all text).filterMap ofLine?)
      generalize RuleLine.all text = lines at each
      induction lines with
      | nil => exact .nil
      | cons line rest ih =>
          rw [List.forall_mem_cons] at each
          rcases each.1 with ⟨rule, read, faithful⟩
          rw [List.filterMap_cons_some read]
          exact .cons faithful (ih each.2)

end CacheRule

end Gatehouse
