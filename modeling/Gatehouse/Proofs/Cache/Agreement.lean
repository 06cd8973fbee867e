import Gatehouse.Pattern.Engine
import Gatehouse.Proofs.Cache.Drafts
import Gatehouse.Proofs.Cache.Losses

/-!
# Two checks of one rule

A rule in structured form is checked field by field, and the line that says the same
is checked word by word.  Whatever can be written as such a line has as many defects
in one form as in the other, and without a defect both are read as one rule.  Only an
empty set of methods is told apart: it stays empty on a line, and in structured form
it is the supported methods.
-/

namespace Gatehouse

open Text (IsPlain IsWord)

namespace RuleDraft

variable {draft : RuleDraft}

/-- The words of the line that says what the draft says. -/
def lineWords (draft : RuleDraft) : List String :=
  [draft.kind, draft.matchType ++ "=" ++ draft.matchValue,
    "methods=" ++ Text.join "," draft.methods, "vary=" ++ Text.join "," draft.vary] ++
  draft.ttl.toList.map fun ttl => "ttl=" ++ toString ttl.toInt

def asLine (draft : RuleDraft) : String :=
  Text.join " " draft.lineWords

/-- The draft can be written as a line, word for word. -/
structure FitsLine (draft : RuleDraft) : Prop where
  kind : IsWord draft.kind.toList
  unmarked : draft.kind.toList.head? ≠ some '#'
  matchType : IsPlain draft.matchType.toList ∧ '=' ∉ draft.matchType.toList
  /-- The key of the matcher is none of the other keys, in any case. -/
  unreserved : Text.asciiLower draft.matchType ∉ ["methods", "ttl", "vary"]
  matchValue : IsPlain draft.matchValue.toList
  methods : ∀ method ∈ draft.methods, IsPlain method.toList ∧ ',' ∉ method.toList
  vary : ∀ header ∈ draft.vary, IsPlain header.toList ∧ ',' ∉ header.toList

theorem FitsLine.key_ne (fits : draft.FitsLine) :
    Text.asciiLower draft.matchType ≠ "methods" ∧ Text.asciiLower draft.matchType ≠ "ttl" ∧
      Text.asciiLower draft.matchType ≠ "vary" := by
  simpa using fits.unreserved

/-- The options of the line beside the matcher. -/
def otherOptions (draft : RuleDraft) : List (String × String) :=
  [("methods", Text.join "," draft.methods), ("vary", Text.join "," draft.vary)] ++
  draft.ttl.toList.map fun ttl => ("ttl", toString ttl.toInt)

/-- The options of the line. -/
def lineOptions (draft : RuleDraft) : List (String × String) :=
  (Text.asciiLower draft.matchType, draft.matchValue) :: draft.otherOptions

theorem mem_otherKeys_of_mem_otherOptions :
    ∀ option ∈ draft.otherOptions, option.1 ∈ otherKeys := by
  intro option optionMem
  simp only [otherOptions, List.mem_append, List.mem_cons, List.not_mem_nil, or_false,
    List.mem_map] at optionMem
  rcases optionMem with (rfl | rfl) | ⟨ttl, -, rfl⟩ <;> simp [otherKeys]

theorem lineWords_eq (draft : RuleDraft) :
    draft.lineWords = draft.kind :: (draft.matchType ++ "=" ++ draft.matchValue) ::
      draft.otherOptions.map CacheRule.optionWord := by
  have methods : "methods=" = "methods" ++ "=" := rfl
  have vary : "vary=" = "vary" ++ "=" := rfl
  have ttl : "ttl=" = "ttl" ++ "=" := rfl
  simp [lineWords, otherOptions, CacheRule.optionWord, methods, vary, ttl]

theorem options_lineWords (fits : draft.FitsLine) (number : Nat) :
    (⟨number, draft.lineWords⟩ : RuleLine).options = draft.lineOptions := by
  have matcher : RuleLine.option? (draft.matchType ++ "=" ++ draft.matchValue) =
      some (Text.asciiLower draft.matchType, draft.matchValue) :=
    RuleLine.option?_append fits.matchType.2 _
  have others : (draft.otherOptions.map CacheRule.optionWord).filterMap RuleLine.option? =
      draft.otherOptions := by
    rw [List.filterMap_map]
    refine (List.filterMap_congr fun option optionMem => ?_).trans List.filterMap_some
    exact CacheRule.option?_optionWord
      (CacheRule.isKey_of_mem_otherKeys _ (mem_otherKeys_of_mem_otherOptions option optionMem))
  rw [RuleLine.options, RuleLine.arguments, lineWords_eq, lineOptions, List.tail_cons,
    List.filterMap_cons_some matcher, others]

theorem FitsLine.isContent (fits : draft.FitsLine) : RuleLine.IsContent draft.lineWords := by
  have methods : IsPlain (Text.join "," draft.methods).toList :=
    Text.isPlain_join fun method methodMem => (fits.methods method methodMem).1
  have vary : IsPlain (Text.join "," draft.vary).toList :=
    Text.isPlain_join fun header headerMem => (fits.vary header headerMem).1
  have plain : ∀ option ∈ draft.otherOptions, IsPlain option.2.toList := by
    simp only [otherOptions, List.mem_append, List.mem_cons, List.not_mem_nil, or_false,
      List.mem_map]
    rintro option ((rfl | rfl) | ⟨ttl, -, rfl⟩)
    · exact methods
    · exact vary
    · exact Text.isPlain_toString_int _
  constructor
  case nonempty => simp [lineWords]
  case words =>
      intro token tokenMem
      simp only [lineWords_eq, List.mem_cons, List.mem_map] at tokenMem
      rcases tokenMem with rfl | rfl | ⟨option, optionMem, rfl⟩
      · exact fits.kind
      · constructor
        · simp
        · simp only [String.toList_append, Text.isPlain_append]
          exact ⟨⟨fits.matchType.1, by decide⟩, fits.matchValue⟩
      · have other := mem_otherKeys_of_mem_otherOptions option optionMem
        exact CacheRule.isWord_optionWord (CacheRule.isKey_of_mem_otherKeys _ other)
          (plain option optionMem)
  case unmarked =>
      rintro _ ⟨⟩
      exact fits.unmarked

/-- An empty text is passed over on a line and has no defect in a list. -/
theorem filterMap_commaList {entries : List String} {defect : String → Option String}
    (plain : ∀ entry ∈ entries, IsPlain entry.toList ∧ ',' ∉ entry.toList)
    (blank : defect "" = none) :
    (Text.commaList (Text.join "," entries)).filterMap defect = entries.filterMap defect := by
  rw [Text.commaList_join_of_plain plain, List.filterMap_filter]
  apply List.filterMap_congr
  intro entry _
  by_cases named : entry = ""
  · simp [named, blank]
  · simp [named]

theorem matchersOf_lineOptions (draft : RuleDraft) :
    CacheRule.matchersOf draft.lineOptions =
      if draft.matchKind?.isSome then [(Text.asciiLower draft.matchType, draft.matchValue)]
      else [] := by
  have others :
      draft.otherOptions.filter (fun option => (MatchKind.ofKey? option.1).isSome) = [] := by
    refine List.filter_eq_nil_iff.mpr fun option optionMem => ?_
    rw [MatchKind.ofKey?_eq_none (mem_otherKeys_of_mem_otherOptions option optionMem)]
    exact Bool.false_ne_true
  rw [CacheRule.matchersOf, lineOptions, matchKind?, List.filter_cons, others]

theorem int64?_toInt (ttl : Int64) : Text.int64? (toString ttl.toInt) = some ttl.toInt :=
  Text.int64?_toString_int ttl.le_toInt ttl.toInt_lt

theorem methodNames_eq (fits : draft.FitsLine) :
    draft.methodNames = (Text.commaList (Text.join "," draft.methods)).map Text.asciiUpper := by
  have name : ∀ method ∈ draft.methods,
      Text.asciiUpper (Text.trim method) = Text.asciiUpper method := by
    intro method methodMem
    rw [(fits.methods method methodMem).1.trim_eq]
  have blank : ∀ text, Text.asciiUpper text = "" ↔ text = "" := by
    intro text
    rw [← String.toList_eq_nil_iff, Text.toList_asciiUpper, List.map_eq_nil_iff,
      String.toList_eq_nil_iff]
  rw [methodNames, List.map_congr_left name, Text.commaList_join_of_plain fits.methods,
    List.filter_map]
  simp [Function.comp_def, blank]

theorem varyNames_eq (fits : draft.FitsLine) :
    (draft.vary.map Text.trim).filter (fun header => header ≠ "") =
      Text.commaList (Text.join "," draft.vary) := by
  rw [Text.commaList_join_of_plain fits.vary,
    List.map_congr_left fun header headerMem => (fits.vary header headerMem).1.trim_eq,
    List.map_id']

section

variable [PatternEngine] {rule : CacheRule}

theorem optionDefects_methods (fits : draft.FitsLine) :
    CacheRule.optionDefects ("methods", Text.join "," draft.methods) =
      draft.methods.filterMap CacheRule.methodDefect :=
  filterMap_commaList fits.methods (by decide)

theorem optionDefects_vary (fits : draft.FitsLine) :
    CacheRule.optionDefects ("vary", Text.join "," draft.vary) =
      draft.vary.filterMap CacheRule.varyDefect :=
  filterMap_commaList fits.vary (by decide)

theorem optionDefects_ttl (ttl : Int64) :
    CacheRule.optionDefects ("ttl", toString ttl.toInt) =
      if ttl < 0 then ["ttl must be >= 0"] else [] := by
  change (CacheRule.ttlDefect (toString ttl.toInt)).toList = _
  simp only [CacheRule.ttlDefect, int64?_toInt, Int64.lt_iff_toInt_lt, Int64.toInt_zero]
  split <;> rfl

def matcherDefects (draft : RuleDraft) : List String :=
  match draft.matchKind? with
  | some kind => (CacheRule.matchDefect kind draft.matchValue).toList
  | none => ["match.type must be prefix|regex|exact"]

def ttlDefects (draft : RuleDraft) : List String :=
  if draft.ttl.any (· < 0) then ["ttl must be >= 0"] else []

theorem flatMap_optionDefects (fits : draft.FitsLine) :
    draft.lineOptions.flatMap CacheRule.optionDefects =
      CacheRule.optionDefects (Text.asciiLower draft.matchType, draft.matchValue) ++
        draft.methods.filterMap CacheRule.methodDefect ++
        draft.vary.filterMap CacheRule.varyDefect ++ draft.ttlDefects := by
  have ttl : (draft.ttl.toList.map fun ttl => ("ttl", toString ttl.toInt)).flatMap
      CacheRule.optionDefects = draft.ttlDefects := by
    unfold ttlDefects
    cases draft.ttl with
    | none => rfl
    | some ttl =>
        simp only [Option.toList_some, List.map_cons, List.map_nil, List.flatMap_singleton,
          optionDefects_ttl, Option.any_some, decide_eq_true_eq]
  simp only [lineOptions, otherOptions, List.flatMap_append, List.flatMap_cons, List.flatMap_nil,
    List.append_nil, optionDefects_methods fits, optionDefects_vary fits, ttl, List.append_assoc]

/-- Where a draft has no known key, the line has no matcher. -/
theorem length_matcherDefects (fits : draft.FitsLine) :
    draft.matcherDefects.length =
      (CacheRule.optionDefects (Text.asciiLower draft.matchType, draft.matchValue)).length +
        (CacheRule.matcherCountDefect
          (CacheRule.matchersOf draft.lineOptions).length).toList.length := by
  have key := fits.key_ne
  rw [matchersOf_lineOptions]
  cases found : draft.matchKind? with
  | none =>
      have unknown : MatchKind.ofKey? (Text.asciiLower draft.matchType) = none := found
      simp [matcherDefects, found, CacheRule.optionDefects, unknown, key,
        CacheRule.matcherCountDefect]
  | some kind =>
      have known : MatchKind.ofKey? (Text.asciiLower draft.matchType) = some kind := found
      simp [matcherDefects, found, CacheRule.optionDefects, known, CacheRule.matcherCountDefect]

theorem length_lineDefects (fits : draft.FitsLine) (number : Nat) :
    (CacheRule.lineDefects ⟨number, draft.lineWords⟩).length = draft.defects.length := by
  have ofLine : CacheRule.lineDefects ⟨number, draft.lineWords⟩ =
      (if (Disposition.parse? draft.kind).isNone then
        ["kind must be ALLOW or DENY (got " ++ Text.quoted draft.kind ++ ")"] else []) ++
      draft.lineOptions.flatMap CacheRule.optionDefects ++
      (CacheRule.matcherCountDefect (CacheRule.matchersOf draft.lineOptions).length).toList := by
    rw [← options_lineWords fits number]
    rfl
  have ofDraft : draft.defects =
      (if (Disposition.parse? draft.kind).isNone then ["kind must be ALLOW or DENY"] else []) ++
      draft.matcherDefects ++ draft.methods.filterMap CacheRule.methodDefect ++ draft.ttlDefects ++
      draft.vary.filterMap CacheRule.varyDefect := rfl
  rw [ofLine, ofDraft, flatMap_optionDefects fits]
  -- Texts and order differ between the two forms, so nothing but the numbers can be compared.
  simp only [List.length_append, length_matcherDefects fits]
  cases Disposition.parse? draft.kind <;> simp <;> omega

theorem isSound_lineWords_iff (fits : draft.FitsLine) (number : Nat) :
    CacheRule.IsSound ⟨number, draft.lineWords⟩ ↔ draft.IsSound := by
  rw [← CacheRule.lineDefects_eq_nil_iff, ← defects_eq_nil_iff, ← List.length_eq_zero_iff,
    length_lineDefects fits, List.length_eq_zero_iff]

/-- The line and the draft are about the same rule. -/
theorem describes_shown (fits : draft.FitsLine) {number : Nat}
    (read : CacheRule.ReadFrom ⟨number, draft.lineWords⟩ rule)
    (faithful : CacheRule.Faithful ⟨number, draft.lineWords⟩ rule) :
    Describes draft rule.shown := by
  have key := fits.key_ne
  constructor
  case disposition => exact faithful.disposition
  case matcher =>
      rcases faithful.matcher with ⟨matcher, given, single⟩
      rw [options_lineWords fits, matchersOf_lineOptions] at single
      split at single
      case isTrue =>
        rcases Prod.mk.inj (List.singleton_inj.mp single) with ⟨sameKey, sameValue⟩
        exact ⟨matcher, given, MatchKind.ofKey?_eq_some_iff.mpr sameKey, sameValue⟩
      case isFalse => cases single
  case methods =>
      intro method
      have given : rule.methods = CacheRule.methodsOf (Text.join "," draft.methods) := by
        rw [read.methods, options_lineWords fits, lineOptions, otherOptions, CacheRule.lastGiven]
        cases draft.ttl <;> simp [CacheRule.methodsGiven, key]
      have named : ∀ other, other ∈ rule.methods.toList ↔ other ∈ draft.methodNames := by
        intro other
        rw [given, CacheRule.methodsOf, MethodSet.mem_ofList, methodNames_eq fits]
      have unnamed : rule.methods.toList = [] ↔ draft.methodNames = [] := by
        simp only [List.eq_nil_iff_forall_not_mem, named]
      rw [CacheRule.mem_methods_shown faithful.methods, named, unnamed]
  case ttl =>
      have last : CacheRule.lastValue "ttl" draft.lineOptions =
          draft.ttl.map fun ttl => toString ttl.toInt := by
        rw [CacheRule.lastValue, lineOptions, otherOptions]
        cases draft.ttl <;> simp [key]
      rw [← options_lineWords fits number] at last
      cases given : draft.ttl with
      | none =>
          rw [given] at last
          exact congrArg Int.ofNat (faithful.noTtl last)
      | some ttl =>
          rw [given] at last
          have same := faithful.ttl _ last
          rw [int64?_toInt] at same
          exact (Option.some.inj same).symm
  case vary =>
      rw [varyNames_eq fits]
      change rule.vary = _
      rw [read.vary, options_lineWords fits, lineOptions, otherOptions, CacheRule.lastGiven]
      cases draft.ttl <;> simp [CacheRule.varyGiven, key]

/-- The report by which a list of drafts is refused. -/
def refusal : Except Report (Ruleset CacheRule) → Report
  | .ok _ => .clean
  | .error report => report

theorem refusal_build (drafts : List RuleDraft) : refusal (build drafts) = report drafts := by
  unfold build
  split
  case isTrue clean =>
    have nothing : messagesFrom 0 drafts = [] := List.isEmpty_iff.mp clean
    rw [refusal, report, nothing]
    rfl
  case isFalse => rfl

/-- The draft and its line are one rule, and have as many defects. -/
structure AgreesWithLine (draft : RuleDraft) : Prop where
  defects : (refusal (build [draft])).messages.length =
    (cacheGrammar.validate draft.asLine).messages.length
  /-- Without a defect, only methods that the line leaves open are told apart. -/
  rule : (cacheGrammar.validate draft.asLine).isOk → ∃ rule,
    cacheGrammar.parse draft.asLine = ⟨[rule]⟩ ∧ build [draft] = .ok ⟨[rule.shown]⟩

theorem build_singleton (sound : draft.IsSound) (describes : Describes draft rule) :
    build [draft] = .ok ⟨[rule]⟩ := by
  rcases sound.exists_describes with ⟨other, read, also⟩
  have clean : (report [draft]).isOk := isOk_report_iff.mpr (by simpa using sound)
  rw [build, if_pos clean, List.filterMap_cons_some read, describes.unique also]
  rfl

theorem agreesWithLine (fits : draft.FitsLine) : draft.AgreesWithLine := by
  have line : RuleLine.all draft.asLine = [⟨1, draft.lineWords⟩] := fits.isContent.all_join
  constructor
  case defects =>
      rw [refusal_build, report, messagesFrom, messagesFrom, Grammar.validate, line]
      simp only [List.flatMap_singleton, List.append_nil, List.length_map,
        CacheRule.cacheGrammar_judgesWords.told, length_lineDefects fits]
  case rule =>
      intro clean
      have lineSound := CacheRule.isSound_of_isOk clean (line ▸ List.mem_singleton_self _)
      rcases lineSound.exists_faithful fits.isContent with ⟨rule, read, faithful⟩
      have readFrom := CacheRule.ofLine?_eq_some_iff.mp read
      refine ⟨rule, ?_, ?_⟩
      · rw [Grammar.parse, line]
        exact congrArg Ruleset.mk (List.filterMap_cons_some read)
      · exact build_singleton ((isSound_lineWords_iff fits 1).mp lineSound)
          (describes_shown fits readFrom faithful)

end

/-- A rule without a name for its methods, with its keys in any case, and a draft with a defect in
every field but one. -/
theorem agreesWithLine_two :
    (FitsLine ⟨"Allow", "PREFIX", "/a=b,c", ["", ""], some 0, ["Accept", ""]⟩ ∧
      AgreesWithLine ⟨"Allow", "PREFIX", "/a=b,c", ["", ""], some 0, ["Accept", ""]⟩) ∧
    FitsLine ⟨"maybe", "suffix", "", ["get", "POST"], some (-1), []⟩ ∧
      AgreesWithLine ⟨"maybe", "suffix", "", ["get", "POST"], some (-1), []⟩ := by
  have sound : FitsLine ⟨"Allow", "PREFIX", "/a=b,c", ["", ""], some 0, ["Accept", ""]⟩ :=
    ⟨⟨by decide, by decide⟩, by decide, by decide, by decide, by decide, by decide, by decide⟩
  have defective : FitsLine ⟨"maybe", "suffix", "", ["get", "POST"], some (-1), []⟩ :=
    ⟨⟨by decide, by decide⟩, by decide, by decide, by decide, by decide, by decide, by decide⟩
  exact ⟨⟨sound, agreesWithLine sound⟩, defective, agreesWithLine defective⟩

end RuleDraft

end Gatehouse
