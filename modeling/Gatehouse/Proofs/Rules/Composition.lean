import Gatehouse.Proofs.Bypass.Checking
import Gatehouse.Proofs.Cache.Checking
import Gatehouse.Proofs.Rules.Writing
import Gatehouse.Proofs.Text.Numerals

/-!
# Texts one behind the other

A line feed between two texts ends the last line of the first and adds no line of
its own.  So the rules of both are read one after the other, and what is reported on
the second text is reported again, further down by the lines of the first.  Cut at
every line feed, a text is its lines, and a message gives the place of its line among
them: blank lines and comments count, and a bare carriage return ends no line.

Rules at the end of a text are asked last, so what the text decided before stays
decided.
-/

namespace Gatehouse

namespace RuleLine

variable {number lines : Nat} {characters : List Char} {pieces : List (List Char)} {line : RuleLine}

/-- The line with a number of lines put in front of it. -/
def lower (lines : Nat) (line : RuleLine) : RuleLine :=
  { line with number := line.number + lines }

def lineFeeds (text : String) : Nat :=
  text.toList.count '\n'

/-- The message with the number of its line raised. -/
def raised (lines : Nat) (message : String) : String :=
  match Text.cut ':' message with
  | some (place, defect) =>
      match Text.natural? (place.toList.drop "line ".length) with
      | some number => "line " ++ toString (number + lines) ++ ":" ++ defect
      | none => message
  | none => message

theorem ofChars?_add (number lines : Nat) (characters : List Char) :
    ofChars? (number + lines) characters = (ofChars? number characters).map (lower lines) := by
  unfold ofChars?
  dsimp only
  split <;> rfl

theorem collect_add (number lines : Nat) (pieces : List (List Char)) :
    collect (number + lines) pieces = (collect number pieces).map (lower lines) := by
  induction pieces generalizing number with
  | nil => rfl
  | cons characters rest ih =>
      rw [collect, collect, Nat.add_right_comm, ih, ofChars?_add, List.map_append]
      cases ofChars? number characters <;> rfl

theorem length_splitOn (characters : List Char) :
    (characters.splitOn '\n').length = characters.count '\n' + 1 := by
  induction characters with
  | nil => simp
  | cons character rest ih =>
      rw [List.splitOn_cons_eq_if_modifyHead]
      by_cases lineFeed : character = '\n'
      · simp [lineFeed, ih]
      · simp [lineFeed, ih]

/-- A text without a line feed is line 1. -/
theorem number_of_mem_all {text : String} (single : lineFeeds text = 0)
    (lineMem : line ∈ all text) : line.number = 1 := by
  rw [lineFeeds, List.count_eq_zero] at single
  rw [all, List.splitOn_eq_singleton single] at lineMem
  simp only [collect, List.append_nil, Option.mem_toList] at lineMem
  unfold ofChars? at lineMem
  dsimp only at lineMem
  split at lineMem
  · cases lineMem
  · cases lineMem
    rfl

theorem all_append (first second : String) :
    all (first ++ "\n" ++ second) =
      all first ++ (all second).map (lower (lineFeeds first + 1)) := by
  have pieces : (first ++ "\n" ++ second).toList.splitOn '\n' =
      first.toList.splitOn '\n' ++ second.toList.splitOn '\n' := by
    simp [List.splitOn_append_cons_self]
  rw [all, pieces, collect_append, collect_add, length_splitOn]
  rfl

/-- The number of a line is what stands between the word in front of it and the colon. -/
theorem raised_entry (lines : Nat) (line : RuleLine) (defect : String) :
    raised lines (Report.entry line.place defect) =
      Report.entry (lower lines line).place defect := by
  have noColon : ':' ∉ line.place.toList := by
    intro colonMem
    rw [place, String.toList_append, List.mem_append] at colonMem
    rcases colonMem with inWord | inNumber
    · exact absurd inWord (by decide)
    · have bounds := Text.bounds_of_mem_toString inNumber
      exact absurd bounds.2 (by decide)
  have written : (Report.entry line.place defect).toList =
      line.place.toList ++ ':' :: (" " ++ defect).toList := by
    simp [Report.entry]
  have cut : Text.cut ':' (Report.entry line.place defect) = some (line.place, " " ++ defect) := by
    rw [Text.cut, written, Text.cutChars_append noColon]
    simp
  have number : Text.natural? (line.place.toList.drop "line ".length) = some line.number := by
    have digits : line.place.toList.drop "line ".length = (toString line.number).toList := by
      rw [place, String.toList_append]
      exact List.drop_left' String.length_toList
    rw [digits, Text.natural?_toString]
  have colon : ":" ++ (" " ++ defect) = ": " ++ defect := by
    rw [← String.append_assoc]
    rfl
  simp only [raised, cut, number]
  simp [Report.entry, place, lower, String.append_assoc, colon]

example : raised 2 "line 9: ttl must be >= 0" = "line 11: ttl must be >= 0" := by
  decide +kernel

end RuleLine

namespace Grammar

open RuleLine (lineFeeds raised)

variable {Rule : Type} {grammar : Grammar Rule} {defectsOf : RuleLine → List String}

/-- A line feed between two texts keeps them apart. -/
structure Appends (grammar : Grammar Rule) (first second : String) : Prop where
  rules : (grammar.parse (first ++ "\n" ++ second)).rules =
    (grammar.parse first).rules ++ (grammar.parse second).rules
  messages : (grammar.validate (first ++ "\n" ++ second)).messages =
    (grammar.validate first).messages ++
      (grammar.validate second).messages.map (raised (lineFeeds first + 1))

/-- A text is read and checked as its lines are, each at its place. -/
structure GoesByLines (grammar : Grammar Rule) (text : String) : Prop where
  rules : (grammar.parse text).rules =
    (Text.split '\n' text).flatMap fun line => (grammar.parse line).rules
  messages : (grammar.validate text).messages =
    (Text.split '\n' text).zipIdx.flatMap fun (line, before) =>
      (grammar.validate line).messages.map (raised before)
  /-- A message is about one line, and the number in it counts the lines up to this one. -/
  numbered : ∀ message ∈ (grammar.validate text).messages, ∃ before line defect,
    (Text.split '\n' text)[before]? = some line ∧
      Report.entry "line 1" defect ∈ (grammar.validate line).messages ∧
        message = Report.entry ("line " ++ toString (before + 1)) defect

namespace JudgesWords

theorem parseLine_lower (judges : grammar.JudgesWords defectsOf) (lines : Nat) (line : RuleLine) :
    grammar.parseLine (line.lower lines) = grammar.parseLine line :=
  judges.read _ line

theorem messages_lower (judges : grammar.JudgesWords defectsOf) (lines : Nat) (line : RuleLine) :
    (grammar.checkLine (line.lower lines)).messages =
      (grammar.checkLine line).messages.map (raised lines) := by
  have found : defectsOf (line.lower lines) = defectsOf line := judges.found _ line
  rw [judges.told, judges.told, found, List.map_map]
  apply List.map_congr_left
  intro defect _
  exact (RuleLine.raised_entry lines line defect).symm

theorem appends (judges : grammar.JudgesWords defectsOf) (first second : String) :
    grammar.Appends first second := by
  constructor
  case rules =>
      simp only [parse, RuleLine.all_append, List.filterMap_append, List.filterMap_map]
      congr 1
      apply List.filterMap_congr
      intro line _
      exact judges.parseLine_lower _ line
  case messages =>
      simp only [validate, RuleLine.all_append, List.flatMap_append, List.flatMap_map,
        List.map_flatMap, judges.messages_lower]

theorem raised_zero (judges : grammar.JudgesWords defectsOf) (text : String) :
    (grammar.validate text).messages.map (raised 0) = (grammar.validate text).messages := by
  have same : ∀ message ∈ (grammar.validate text).messages, raised 0 message = message := by
    intro message messageMem
    rcases judges.mem_messages_iff.mp messageMem with ⟨line, -, defect, -, rfl⟩
    exact RuleLine.raised_entry 0 line defect
  rw [List.map_congr_left same, List.map_id']

theorem raised_raised (judges : grammar.JudgesWords defectsOf) (first second : Nat)
    (text : String) :
    ((grammar.validate text).messages.map (raised first)).map (raised second) =
      (grammar.validate text).messages.map (raised (first + second)) := by
  rw [List.map_map]
  apply List.map_congr_left
  intro message messageMem
  rcases judges.mem_messages_iff.mp messageMem with ⟨line, -, defect, -, rfl⟩
  simp only [Function.comp_apply, RuleLine.raised_entry, RuleLine.lower, Nat.add_assoc]

/-- Lines that are put together are read and checked as they are alone. -/
theorem join_goesByLines (judges : grammar.JudgesWords defectsOf) {pieces : List String}
    (nonempty : pieces ≠ []) (whole : ∀ piece ∈ pieces, lineFeeds piece = 0) :
    (grammar.parse (Text.join "\n" pieces)).rules =
        pieces.flatMap (fun line => (grammar.parse line).rules) ∧
      (grammar.validate (Text.join "\n" pieces)).messages =
        pieces.zipIdx.flatMap fun (line, before) =>
          (grammar.validate line).messages.map (raised before) := by
  induction pieces with
  | nil => exact absurd rfl nonempty
  | cons piece rest ih =>
      rw [List.forall_mem_cons] at whole
      cases rest with
      | nil => simp [Text.join, judges.raised_zero]
      | cons next rest =>
          rcases ih (List.cons_ne_nil next rest) whole.2 with ⟨rules, messages⟩
          have joined : Text.join "\n" (piece :: next :: rest) =
              piece ++ "\n" ++ Text.join "\n" (next :: rest) := String.intercalate_cons_cons
          have appends := judges.appends piece (Text.join "\n" (next :: rest))
          rw [joined, appends.rules, appends.messages, rules, messages, whole.1]
          refine ⟨rfl, ?_⟩
          have lowered : ((next :: rest).zipIdx.flatMap fun (line, before) =>
              (grammar.validate line).messages.map (raised before)).map (raised 1) =
                ((next :: rest).zipIdx 1).flatMap fun (line, before) =>
                  (grammar.validate line).messages.map (raised before) := by
            rw [List.zipIdx_succ, List.flatMap_map, List.map_flatMap]
            simp only [judges.raised_raised]
          change _ = (grammar.validate piece).messages.map (raised 0) ++
            ((next :: rest).zipIdx 1).flatMap _
          rw [judges.raised_zero, ← lowered]

theorem goesByLines (judges : grammar.JudgesWords defectsOf) (text : String) :
    grammar.GoesByLines text := by
  have whole : ∀ piece ∈ Text.split '\n' text, lineFeeds piece = 0 := by
    intro piece pieceMem
    rcases List.mem_map.mp pieceMem with ⟨characters, charactersMem, rfl⟩
    rw [lineFeeds, String.toList_ofList, List.count_eq_zero]
    intro lineFeedMem
    simpa using (Text.mem_of_mem_splitOnP charactersMem lineFeedMem).2
  have nonempty : Text.split '\n' text ≠ [] := by
    simp [Text.split, List.splitOn_ne_nil]
  have joined : Text.join "\n" (Text.split '\n' text) = text := by
    rw [← String.toList_inj, Text.toList_join, Text.split, List.map_map]
    simp [Function.comp_def]
  rcases judges.join_goesByLines nonempty whole with ⟨rules, messages⟩
  rw [joined] at rules messages
  constructor
  case rules => exact rules
  case messages => exact messages
  case numbered =>
      intro message messageMem
      rw [messages] at messageMem
      rcases List.mem_flatMap.mp messageMem with ⟨⟨line, before⟩, lineMem, messageMem⟩
      rcases List.mem_map.mp messageMem with ⟨alone, aloneMem, rfl⟩
      rcases judges.mem_messages_iff.mp aloneMem with ⟨found, foundMem, defect, -, rfl⟩
      have placed := List.mem_zipIdx_iff_getElem?.mp lineMem
      have first := RuleLine.number_of_mem_all (whole line (List.mem_of_getElem? placed)) foundMem
      have place : found.place = "line 1" := by
        rw [RuleLine.place, first]
        decide
      refine ⟨before, line, defect, placed, ?_, ?_⟩
      · rw [place] at aloneMem
        exact aloneMem
      · rw [RuleLine.raised_entry, RuleLine.place, RuleLine.lower, first, Nat.add_comm]

end JudgesWords

end Grammar

namespace Ruleset

variable {path method : String}

/-- Rules behind those of which one decides play no part. -/
theorem bypassAction_append {first whole : Ruleset BypassEntry} {second : List BypassEntry}
    (rules : whole.rules = first.rules ++ second) (decided : first.bypassAction path ≠ .none) :
    whole.bypassAction path = first.bypassAction path := by
  rcases first.bypassAction_cases path with
    ⟨-, nothing⟩ | ⟨before, entry, behind, firstRules, covers, earlier, action⟩
  · exact absurd nothing decided
  · rw [action]
    have wholeRules : whole.rules = before ++ entry :: (behind ++ second) := by
      rw [rules, firstRules, List.append_assoc, List.cons_append]
    exact bypassAction_of_first wholeRules covers earlier

theorem decidingPosition_append [PatternEngine] {first whole : Ruleset CacheRule}
    {second : List CacheRule} {position : Nat} (rules : whole.rules = first.rules ++ second)
    (decided : first.decidingPosition method path = some position) :
    whole.decidingPosition method path = some position ∧
      whole.decidingRule method path = first.decidingRule method path := by
  rw [decidingPosition] at decided
  constructor
  · rw [decidingPosition, rules, List.findIdx?_append, decided, Option.some_or]
  · have covered : (first.decidingRule method path).isSome := by
      have found : (first.rules.any fun rule => rule.covers (Text.asciiUpper method) path) := by
        rw [← List.findIdx?_isSome, decided, Option.isSome_some]
      rw [decidingRule, List.find?_isSome]
      exact List.any_eq_true.mp found
    rcases Option.isSome_iff_exists.mp covered with ⟨rule, found⟩
    rw [found]
    rw [decidingRule] at found ⊢
    rw [rules, List.find?_append, found, Option.some_or]

end Ruleset

namespace Grammar

variable [PatternEngine]

/-- What can be relied on about two texts with a line feed between them. -/
structure Composes (first second : String) : Prop where
  bypass : bypassGrammar.Appends first second
  cache : cacheGrammar.Appends first second
  /-- What the first text asks for a path is what both ask for it. -/
  action : ∀ path, (bypassGrammar.parse first).bypassAction path ≠ .none →
    (bypassGrammar.parse (first ++ "\n" ++ second)).bypassAction path =
      (bypassGrammar.parse first).bypassAction path
  /-- The rule of the first text that decides about a request decides about it in both. -/
  decision : ∀ method path position,
    (cacheGrammar.parse first).decidingPosition method path = some position →
      (cacheGrammar.parse (first ++ "\n" ++ second)).decidingPosition method path =
          some position ∧
        (cacheGrammar.parse (first ++ "\n" ++ second)).decidingRule method path =
          (cacheGrammar.parse first).decidingRule method path
  bypassLines : ∀ text, bypassGrammar.GoesByLines text
  cacheLines : ∀ text, cacheGrammar.GoesByLines text

theorem texts_compose (first second : String) : Composes first second := by
  have bypass := BypassEntry.bypassGrammar_judgesWords.appends first second
  have cache := CacheRule.cacheGrammar_judgesWords.appends first second
  constructor
  case bypass => exact bypass
  case cache => exact cache
  case action =>
      intro path decided
      exact Ruleset.bypassAction_append bypass.rules decided
  case decision =>
      intro method path position decided
      exact Ruleset.decidingPosition_append cache.rules decided
  case bypassLines => exact BypassEntry.bypassGrammar_judgesWords.goesByLines
  case cacheLines => exact CacheRule.cacheGrammar_judgesWords.goesByLines

end Grammar

end Gatehouse
