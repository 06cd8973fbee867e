import Gatehouse.Proofs.Cache.Options
import Gatehouse.Proofs.Rules.Writing
import Gatehouse.Proofs.Text.Numerals
import Mathlib.Data.List.Sort

/-!
# Cache rules that are written and read again

A rule can be written if the text of its matcher is a word, its methods and its
headers are entries of comma lists, and its time to live fits the range that is
read.  Every rule that was read from a line is of this kind, whatever the line was
like, because its texts were cut out of words.  The words of such a rule are read
as the rule.
-/

namespace Gatehouse

open Text (IsEntry IsPlain IsWord)

namespace MethodSet

theorem ext_of_mem {methods other : MethodSet}
    (same : ∀ method, method ∈ methods.toList ↔ method ∈ other.toList) : methods = other := by
  have sameList : methods.toList = other.toList :=
    methods.ordered.eq_of_mem_iff other.ordered fun _ => same _
  rcases methods with ⟨members, ordered⟩
  rcases other with ⟨otherMembers, otherOrdered⟩
  rw [mk.injEq]
  exact sameList

theorem ofList_toList (methods : MethodSet) : ofList methods.toList = methods :=
  ext_of_mem fun _ => mem_ofList

end MethodSet

namespace CacheRule

/-- A text that is written in front of the mark of an option and read back as it is. -/
structure IsKey (key : String) : Prop where
  unmarked : '=' ∉ key.toList
  small : Text.asciiLower key = key
  word : IsWord key.toList

theorem isKey_of_matchKind (kind : MatchKind) : IsKey kind.key := by
  cases kind <;> exact ⟨by decide, by decide, by decide, by decide⟩

theorem isKey_of_mem_otherKeys : ∀ key ∈ otherKeys, IsKey key := by
  simp only [otherKeys, List.forall_mem_cons]
  refine ⟨?_, ?_, ?_, List.forall_mem_nil _⟩ <;> exact ⟨by decide, by decide, by decide, by decide⟩

theorem option?_optionWord {option : String × String} (isKey : IsKey option.1) :
    RuleLine.option? (optionWord option) = some option := by
  rw [optionWord, RuleLine.option?_append isKey.unmarked, isKey.small]

theorem isWord_optionWord {option : String × String} (isKey : IsKey option.1)
    (plain : IsPlain option.2.toList) : IsWord (optionWord option).toList := by
  rw [optionWord, String.toList_append, String.toList_append, List.append_assoc]
  exact isKey.word.append (Text.isPlain_append.mpr ⟨by decide, plain⟩)

theorem lt_of_int64? {text : String} {number : Nat}
    (read : Text.int64? text = some (number : Int)) :
    number < Nat.pow 2 63 := by
  have bounds := (Option.filter_eq_some_iff.mp read).2
  have limit : Int.pow 2 63 = 2 ^ 63 := rfl
  change number < 2 ^ 63
  simp only [limit, Bool.and_eq_true, decide_eq_true_eq] at bounds
  omega

variable [PatternEngine] {line : RuleLine} {rule : CacheRule}

/-- The rule can be written as a line. -/
structure IsWritable (rule : CacheRule) : Prop where
  matcher : ∀ matcher ∈ rule.matcher, IsWord matcher.value.toList
  methods : ∀ method ∈ rule.methods.toList, IsEntry method ∧ Text.asciiUpper method = method
  ttl : rule.ttl < Nat.pow 2 63
  vary : ∀ header ∈ rule.vary, IsEntry header

theorem ReadFrom.isWritable (read : ReadFrom line rule)
    (words : ∀ token ∈ line.tokens, IsWord token.toList) : rule.IsWritable := by
  have plain : ∀ option ∈ line.options, IsPlain option.2.toList :=
    fun _ optionMem => RuleLine.isPlain_of_mem_options words optionMem
  constructor
  case matcher =>
      rw [read.matcher]
      refine getD_lastGiven (fun made : Option PathMatcher =>
        ∀ matcher ∈ made, IsWord matcher.value.toList)
        (by simp) fun option optionMem made gives matcher matcherMem => ?_
      rcases Option.bind_eq_some_iff.mp gives with ⟨kind, -, gives⟩
      split at gives
      case isTrue => cases gives
      case isFalse nonempty =>
        cases gives
        rw [PathMatcher.value_of_make? matcherMem]
        exact ⟨by simpa using nonempty, plain option optionMem⟩
  case methods =>
      rw [read.methods]
      refine getD_lastGiven (fun methods : MethodSet => ∀ method ∈ methods.toList,
        IsEntry method ∧ Text.asciiUpper method = method)
        (by simp [MethodSet.empty]) fun option optionMem methods gives method methodMem => ?_
      cases (Option.ite_none_right_eq_some.mp gives).2
      rw [methodsOf, MethodSet.mem_ofList] at methodMem
      rcases List.mem_map.mp methodMem with ⟨entry, entryMem, rfl⟩
      exact ⟨(Text.isEntry_of_mem_commaList (plain option optionMem) entryMem).asciiUpper,
        Text.asciiUpper_asciiUpper entry⟩
  case ttl =>
      rw [read.ttl]
      refine getD_lastGiven (· < Nat.pow 2 63) (by decide) fun option _ ttl gives => ?_
      have usable := (Option.ite_none_right_eq_some.mp gives).2
      exact lt_of_int64? (ttl?_eq_some_iff.mp usable)
  case vary =>
      rw [read.vary]
      refine getD_lastGiven (fun headers => ∀ header ∈ headers, IsEntry header)
        (by simp) fun option optionMem headers gives header headerMem => ?_
      cases (Option.ite_none_right_eq_some.mp gives).2
      exact Text.isEntry_of_mem_commaList (plain option optionMem) headerMem

theorem forall_mem_optionsOf {P : String × String → Prop}
    (matcher : ∀ matcher ∈ rule.matcher, P (matcher.kind.key, matcher.value))
    (methods : P ("methods", Text.join "," rule.methods.toList))
    (ttl : P ("ttl", toString rule.ttl)) (vary : P ("vary", Text.join "," rule.vary)) :
    ∀ option ∈ rule.optionsOf, P option := by
  intro option optionMem
  simp only [optionsOf, List.append_assoc, List.mem_append, List.mem_singleton] at optionMem
  rcases optionMem with matcherMem | methodsMem | rfl | varyMem
  · rcases List.mem_map.mp matcherMem with ⟨_, found, rfl⟩
    exact matcher _ (Option.mem_toList.mp found)
  · split at methodsMem
    · cases methodsMem
    · cases List.mem_singleton.mp methodsMem
      exact methods
  · exact ttl
  · split at varyMem
    · cases varyMem
    · cases List.mem_singleton.mp varyMem
      exact vary

theorem isKey_of_mem_optionsOf : ∀ option ∈ rule.optionsOf, IsKey option.1 := by
  have other := isKey_of_mem_otherKeys
  apply forall_mem_optionsOf
  · exact fun matcher _ => isKey_of_matchKind matcher.kind
  · exact other "methods" (by decide)
  · exact other "ttl" (by decide)
  · exact other "vary" (by decide)

theorem options_wordsOf (rule : CacheRule) (number : Nat) :
    (⟨number, rule.wordsOf⟩ : RuleLine).options = rule.optionsOf := by
  rw [RuleLine.options, RuleLine.arguments, wordsOf, List.tail_cons, List.filterMap_map]
  refine (List.filterMap_congr fun option optionMem => ?_).trans List.filterMap_some
  exact option?_optionWord (isKey_of_mem_optionsOf option optionMem)

theorem IsWritable.isPlain_of_mem_optionsOf (writable : rule.IsWritable) :
    ∀ option ∈ rule.optionsOf, IsPlain option.2.toList := by
  apply forall_mem_optionsOf
  · exact fun matcher matcherMem => (writable.matcher matcher matcherMem).plain
  · exact Text.isPlain_join fun method methodMem => (writable.methods method methodMem).1.plain
  · exact (Text.isWord_toString _).plain
  · exact Text.isPlain_join fun header headerMem => (writable.vary header headerMem).plain

theorem IsWritable.isContent (writable : rule.IsWritable) : RuleLine.IsContent rule.wordsOf := by
  have keyword : IsWord rule.disposition.keyword.toList ∧
      rule.disposition.keyword.toList.head? ≠ some '#' := by
    cases rule.disposition <;> exact ⟨⟨by decide, by decide⟩, by decide⟩
  constructor
  case nonempty => simp [wordsOf]
  case words =>
      intro token tokenMem
      rcases List.mem_cons.mp tokenMem with rfl | optionMem
      · exact keyword.1
      · rcases List.mem_map.mp optionMem with ⟨option, written, rfl⟩
        exact isWord_optionWord (isKey_of_mem_optionsOf option written)
          (writable.isPlain_of_mem_optionsOf option written)
  case unmarked =>
      rintro _ ⟨⟩
      exact keyword.2

theorem keyword_wordsOf (rule : CacheRule) (number : Nat) :
    Disposition.parse? (⟨number, rule.wordsOf⟩ : RuleLine).keyword = some rule.disposition := by
  have keyword : (⟨number, rule.wordsOf⟩ : RuleLine).keyword = rule.disposition.keyword := by
    simp [RuleLine.keyword, wordsOf]
  rw [keyword]
  cases rule.disposition <;> rfl

theorem IsWritable.matcherGiven_eq (writable : rule.IsWritable) :
    ∀ matcher ∈ rule.matcher,
      matcherGiven (matcher.kind.key, matcher.value) = some (some matcher) := by
  intro matcher matcherMem
  have nonempty : matcher.value ≠ "" := by
    simpa using (writable.matcher matcher matcherMem).nonempty
  rw [matcherGiven, MatchKind.ofKey?_eq_some_iff.mpr rfl, Option.bind_some, if_neg nonempty,
    PathMatcher.make?_self]

theorem IsWritable.methodsOf_join (writable : rule.IsWritable) :
    methodsOf (Text.join "," rule.methods.toList) = rule.methods := by
  rw [methodsOf, Text.commaList_join fun method methodMem => (writable.methods method methodMem).1,
    List.map_congr_left fun method methodMem => (writable.methods method methodMem).2, List.map_id',
    MethodSet.ofList_toList]

theorem IsWritable.readFrom (writable : rule.IsWritable) (number : Nat) :
    ReadFrom ⟨number, rule.wordsOf⟩ rule := by
  -- Each field is given by one option at most: those in front of it and behind it are of others.
  constructor
  case long =>
      simp [wordsOf, optionsOf]
      omega
  case disposition => exact keyword_wordsOf rule number
  case matcher =>
      have given := writable.matcherGiven_eq
      have others : ∀ value, matcherGiven ("methods", value) = none ∧
          matcherGiven ("ttl", value) = none ∧ matcherGiven ("vary", value) = none :=
        fun value => ⟨rfl, rfl, rfl⟩
      rw [options_wordsOf, optionsOf, lastGiven]
      cases found : rule.matcher <;> cases rule.methods.isEmpty <;> cases rule.vary.isEmpty <;>
        simp_all
  case methods =>
      have given := writable.methodsOf_join
      have ofMatcher : ∀ kind value, methodsGiven (MatchKind.key kind, value) = none := by
        intro kind value
        cases kind <;> rfl
      have empty := @MethodSet.eq_empty_of_isEmpty rule.methods
      rw [options_wordsOf, optionsOf, lastGiven]
      cases rule.matcher <;> cases found : rule.methods.isEmpty <;> cases rule.vary.isEmpty <;>
        simp_all [methodsGiven]
  case ttl =>
      have given : ttl? (toString rule.ttl) = some rule.ttl :=
        ttl?_eq_some_iff.mpr (Text.int64?_toString writable.ttl)
      have ofMatcher : ∀ kind value, ttlGiven (MatchKind.key kind, value) = none := by
        intro kind value
        cases kind <;> rfl
      rw [options_wordsOf, optionsOf, lastGiven]
      cases rule.matcher <;> cases rule.methods.isEmpty <;> cases rule.vary.isEmpty <;>
        simp_all [ttlGiven]
  case vary =>
      have given := Text.commaList_join writable.vary
      have ofMatcher : ∀ kind value, varyGiven (MatchKind.key kind, value) = none := by
        intro kind value
        cases kind <;> rfl
      rw [options_wordsOf, optionsOf, lastGiven]
      cases rule.matcher <;> cases rule.methods.isEmpty <;> cases found : rule.vary.isEmpty <;>
        simp_all [varyGiven]

theorem IsWritable.keeps (writable : rule.IsWritable) : cacheGrammar.Keeps rule rule.wordsOf where
  written := rfl
  content := writable.isContent
  read number := ofLine?_eq_some_iff.mpr (writable.readFrom number)

end CacheRule

end Gatehouse
