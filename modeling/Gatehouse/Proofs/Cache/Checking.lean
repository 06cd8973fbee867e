import Gatehouse.Proofs.Cache.Options
import Gatehouse.Proofs.Rules.Reporting

/-!
# What strict checking accepts

Checking collects messages, and a line without a message is sound.  `IsSound`
says what a sound line is without a word on messages: its keyword is known, each
of its options is usable, and exactly one of them is a matcher.
-/

namespace Gatehouse

open Text (IsPlain IsWord)

namespace CacheRule

variable {text method header : String}

theorem ttlDefect_eq_none_iff : ttlDefect text = none ↔ ∃ ttl, ttl? text = some ttl := by
  unfold ttlDefect ttl?
  cases Text.int64? text with
  | none => simp
  | some value =>
      by_cases negative : value < 0
      · simp [negative, Int.not_le.mpr negative]
      · simp [negative, Int.not_lt.mp negative]

theorem methodDefect_eq_none_iff :
    methodDefect method = none ↔
      Text.asciiUpper (Text.trim method) ∈ "" :: supportedMethods := by
  simp only [methodDefect, List.mem_cons]
  grind

theorem varyDefect_eq_none_iff :
    varyDefect header = none ↔
      ',' ∉ (Text.trim header).toList ∧ IsPlain (Text.trim header).toList := by
  have plain : IsPlain (Text.trim header).toList ↔ Text.hasBlank (Text.trim header) = false :=
    ⟨fun plain => plain.hasBlank_eq, Text.isPlain_of_hasBlank⟩
  rw [plain]
  simp [varyDefect]

theorem matcherCountDefect_eq_none_iff {count : Nat} :
    matcherCountDefect count = none ↔ count = 1 := by
  unfold matcherCountDefect
  grind

variable [PatternEngine] {line : RuleLine} {option : String × String} {kind : MatchKind}

theorem matchDefect_eq_none_iff :
    matchDefect kind text = none ↔
      IsWord text.toList ∧ ∃ matcher, PathMatcher.make? kind text = some matcher := by
  have made : (∃ matcher, PathMatcher.make? kind text = some matcher) ↔
      (kind = .pattern → Pattern.fault? text = none) := by
    cases kind with
    | pattern => simp [PathMatcher.make?, Pattern.fault?_eq_none_iff]
    | _ => simp [PathMatcher.make?]
  have word : IsWord text.toList ↔ text ≠ "" ∧ Text.hasBlank text = false := by
    constructor
    · intro isWord
      exact ⟨by simpa using isWord.nonempty, isWord.plain.hasBlank_eq⟩
    · rintro ⟨nonempty, unbroken⟩
      exact ⟨by simpa using nonempty, Text.isPlain_of_hasBlank unbroken⟩
  rw [made, word]
  unfold matchDefect
  split
  case isTrue empty => simp [empty]
  case isFalse nonempty =>
    split
    case isTrue broken => simp [broken]
    case isFalse unbroken => simp [nonempty, unbroken]

/-- The options that are matchers. -/
def matchersOf (options : List (String × String)) : List (String × String) :=
  options.filter fun option => (MatchKind.ofKey? option.1).isSome

/-- Nothing is wrong with the option. -/
structure IsUsable (option : String × String) : Prop where
  matcher : ∀ kind : MatchKind, option.1 = kind.key →
    IsWord option.2.toList ∧ ∃ matcher, PathMatcher.make? kind option.2 = some matcher
  methods : option.1 = "methods" → ∀ method ∈ Text.commaList option.2,
    Text.asciiUpper (Text.trim method) ∈ "" :: supportedMethods
  ttl : option.1 = "ttl" → ∃ ttl, ttl? option.2 = some ttl
  vary : option.1 = "vary" → ∀ header ∈ Text.commaList option.2,
    ',' ∉ (Text.trim header).toList ∧ IsPlain (Text.trim header).toList

/-- Nothing is wrong with the line. -/
structure IsSound (line : RuleLine) : Prop where
  keyword : ∃ disposition, Disposition.parse? line.keyword = some disposition
  usable : ∀ option ∈ line.options, IsUsable option
  matcher : (matchersOf line.options).length = 1

theorem optionDefects_eq_nil_iff : optionDefects option = [] ↔ IsUsable option := by
  have methods : (Text.commaList option.2).filterMap methodDefect = [] ↔
      ∀ method ∈ Text.commaList option.2,
        Text.asciiUpper (Text.trim method) ∈ "" :: supportedMethods := by
    simp only [List.filterMap_eq_nil_iff, methodDefect_eq_none_iff]
  have vary : (Text.commaList option.2).filterMap varyDefect = [] ↔
      ∀ header ∈ Text.commaList option.2,
        ',' ∉ (Text.trim header).toList ∧ IsPlain (Text.trim header).toList := by
    simp only [List.filterMap_eq_nil_iff, varyDefect_eq_none_iff]
  have ttl : (ttlDefect option.2).toList = [] ↔ ∃ ttl, ttl? option.2 = some ttl := by
    rw [Option.toList_eq_nil_iff, ttlDefect_eq_none_iff]
  unfold optionDefects
  cases found : MatchKind.ofKey? option.1 with
  | none =>
      have noMatcher : ∀ kind : MatchKind, option.1 ≠ kind.key := by
        intro kind same
        rw [MatchKind.ofKey?_eq_some_iff.mpr same] at found
        cases found
      constructor
      · intro clean
        refine ⟨fun kind same => absurd same (noMatcher kind), ?_, ?_, ?_⟩ <;> intro key <;>
          simp_all
      · intro usable
        rcases usable with ⟨-, ofMethods, ofTtl, ofVary⟩
        dsimp only
        split
        case isTrue key => exact methods.mpr (ofMethods key)
        case isFalse =>
          split
          case isTrue key => exact vary.mpr (ofVary key)
          case isFalse =>
            split
            case isTrue key => exact ttl.mpr (ofTtl key)
            case isFalse => rfl
  | some kind =>
      rcases key_ne_of_ofKey? found with ⟨noMethods, noTtl, noVary⟩
      have same := MatchKind.ofKey?_eq_some_iff.mp found
      dsimp only
      rw [Option.toList_eq_nil_iff, matchDefect_eq_none_iff]
      constructor
      · intro sound
        refine ⟨fun other otherSame => ?_, fun key => absurd key noMethods,
          fun key => absurd key noTtl, fun key => absurd key noVary⟩
        rw [MatchKind.ofKey?_eq_some_iff.mpr otherSame] at found
        cases found
        exact sound
      · exact fun usable => usable.matcher kind same

theorem lineDefects_eq_nil_iff : lineDefects line = [] ↔ IsSound line := by
  have keyword : (if (Disposition.parse? line.keyword).isNone then
      ["kind must be ALLOW or DENY (got " ++ Text.quoted line.keyword ++ ")"] else []) = [] ↔
        ∃ disposition, Disposition.parse? line.keyword = some disposition := by
    cases Disposition.parse? line.keyword <;> simp
  have usable : line.options.flatMap optionDefects = [] ↔
      ∀ option ∈ line.options, IsUsable option := by
    simp only [List.flatMap_eq_nil_iff, optionDefects_eq_nil_iff]
  have matcher : (matcherCountDefect (matchersOf line.options).length).toList = [] ↔
      (matchersOf line.options).length = 1 := by
    rw [Option.toList_eq_nil_iff, matcherCountDefect_eq_none_iff]
  rw [lineDefects]
  simp only [List.append_eq_nil_iff]
  rw [keyword, usable]
  constructor
  · rintro ⟨⟨known, usable⟩, single⟩
    exact ⟨known, usable, matcher.mp single⟩
  · rintro ⟨known, usable, single⟩
    exact ⟨⟨known, usable⟩, matcher.mpr single⟩

theorem cacheGrammar_judgesWords : cacheGrammar.JudgesWords lineDefects where
  read _ _ := rfl
  found _ _ := rfl
  told line := by
    change (check line).messages = _
    rw [check]

end CacheRule

end Gatehouse
