import Gatehouse.Proofs.Text.Words
import Gatehouse.Rules.Grammar

/-!
# Rules that are written and read again

A line that means something consists of words of which the first does not start
with the mark of a comment, and any such words, written with a space between
neighbours, are a line that is read as these words.  So a ruleset survives being
written if each of its rules is written with such words and these words are read
as the rule.

What stands in front of the rules only moves their lines down as long as it is
made of comments and blank lines.
-/

namespace Gatehouse

open Text (IsPlain IsWord)

namespace RuleLine

variable {tokens : List String} {line : RuleLine} {text : String}

/-- The words can be those of a line that means something. -/
structure IsContent (tokens : List String) : Prop where
  nonempty : tokens ≠ []
  words : ∀ token ∈ tokens, IsWord token.toList
  unmarked : ∀ first ∈ tokens.head?, first.toList.head? ≠ some '#'

theorem isContent_of_ofChars? {number : Nat} {characters : List Char}
    (read : ofChars? number characters = some line) : IsContent line.tokens := by
  rw [ofChars?] at read
  split at read
  case isTrue => cases read
  case isFalse meaningful =>
    cases read
    cases trimmed : Text.trimChars characters with
    | nil => simp [trimmed] at meaningful
    | cons first rest =>
        have visible : Text.isBlank first = false :=
          Text.isBlank_of_mem_head? (by rw [trimmed]; rfl)
        rcases Text.exists_wordsOfChars_eq_cons visible rest with ⟨word, words, read⟩
        rw [read]
        refine ⟨by simp, fun token tokenMem => ?_, ?_⟩
        · rcases List.mem_map.mp tokenMem with ⟨characters, charactersMem, rfl⟩
          rw [String.toList_ofList]
          exact Text.isWord_of_mem_wordsOfChars (read ▸ charactersMem)
        · rintro _ ⟨⟩ marked
          simp_all

theorem exists_of_mem_collect {number : Nat} {pieces : List (List Char)}
    (lineMem : line ∈ collect number pieces) :
    ∃ position, ∃ characters ∈ pieces, ofChars? position characters = some line := by
  induction pieces generalizing number with
  | nil => cases lineMem
  | cons characters rest ih =>
      rcases List.mem_append.mp lineMem with here | later
      · exact ⟨number, characters, List.mem_cons_self, Option.mem_toList.mp here⟩
      · rcases ih later with ⟨position, found, foundMem, read⟩
        exact ⟨position, found, List.mem_cons_of_mem _ foundMem, read⟩

theorem isContent_of_mem_all (lineMem : line ∈ all text) : IsContent line.tokens := by
  rcases exists_of_mem_collect lineMem with ⟨_, _, _, read⟩
  exact isContent_of_ofChars? read

theorem exists_join_cons (first : String) (rest : List String) :
    ∃ behind, (Text.join " " (first :: rest)).toList = first.toList ++ behind := by
  cases rest with
  | nil => exact ⟨[], by simp [Text.toList_join]⟩
  | cons next rest =>
      rw [Text.toList_join, List.map_cons, List.map_cons, List.intercalate_cons_cons,
        List.append_assoc]
      exact ⟨_, rfl⟩

theorem exists_join_concat (words : List String) (last : String) :
    ∃ front, (Text.join " " (words ++ [last])).toList = front ++ last.toList := by
  induction words with
  | nil => exact ⟨[], by simp [Text.toList_join]⟩
  | cons first rest ih =>
      rcases ih with ⟨front, whole⟩
      rcases List.exists_cons_of_ne_nil (List.concat_ne_nil last rest) with ⟨next, behind, split⟩
      refine ⟨first.toList ++ [' '] ++ front, ?_⟩
      rw [Text.toList_join, split, List.map_cons] at whole
      rw [Text.toList_join, List.cons_append, split, List.map_cons, List.map_cons,
        List.intercalate_cons_cons, List.append_assoc _ front, ← whole]
      rfl

theorem mem_join {character : Char} (characterMem : character ∈ (Text.join " " tokens).toList) :
    character = ' ' ∨ ∃ token ∈ tokens, character ∈ token.toList := by
  induction tokens with
  | nil => simp [Text.toList_join] at characterMem
  | cons first rest ih =>
      rw [Text.toList_join] at ih characterMem
      cases rest with
      | nil => exact .inr ⟨first, List.mem_cons_self, by simpa using characterMem⟩
      | cons next rest =>
          rw [List.map_cons, List.map_cons, List.intercalate_cons_cons] at characterMem
          rcases List.mem_append.mp characterMem with inFront | behind
          · rcases List.mem_append.mp inFront with inFirst | space
            · exact .inr ⟨first, List.mem_cons_self, inFirst⟩
            · exact .inl (by simpa using space)
          · exact (ih behind).imp_right fun ⟨token, tokenMem, within⟩ =>
              ⟨token, List.mem_cons_of_mem first tokenMem, within⟩

namespace IsContent

theorem trimChars_join (content : IsContent tokens) :
    Text.trimChars (Text.join " " tokens).toList = (Text.join " " tokens).toList := by
  apply Text.trimChars_eq_self
  · rcases List.exists_cons_of_ne_nil content.nonempty with ⟨first, rest, rfl⟩
    rcases exists_join_cons first rest with ⟨behind, starts⟩
    have isWord := content.words first List.mem_cons_self
    rcases List.exists_cons_of_ne_nil isWord.nonempty with ⟨character, characters, spelled⟩
    rw [starts, spelled]
    rintro _ ⟨⟩
    exact isWord.plain character (by simp [spelled])
  · rcases tokens.eq_nil_or_concat' with rfl | ⟨words, last, rfl⟩
    · exact absurd rfl content.nonempty
    · rcases exists_join_concat words last with ⟨front, ends⟩
      have isWord := content.words last (by simp)
      intro character characterMem
      rw [ends, List.getLast?_append_of_ne_nil _ isWord.nonempty] at characterMem
      exact isWord.plain character (List.mem_of_mem_getLast? characterMem)

theorem ofChars?_join (content : IsContent tokens) (number : Nat) :
    ofChars? number (Text.join " " tokens).toList = some ⟨number, tokens⟩ := by
  rcases List.exists_cons_of_ne_nil content.nonempty with ⟨first, rest, rfl⟩
  rcases exists_join_cons first rest with ⟨behind, starts⟩
  rcases List.exists_cons_of_ne_nil (content.words first List.mem_cons_self).nonempty with
    ⟨character, characters, spelled⟩
  have unmarked : character ≠ '#' := by
    have marked := content.unmarked first rfl
    rw [spelled] at marked
    simpa using marked
  have words : Text.wordsOfChars (Text.join " " (first :: rest)).toList =
      (first :: rest).map String.toList := by
    rw [Text.toList_join]
    refine Text.wordsOfChars_intercalate fun word wordMem => ?_
    rcases List.mem_map.mp wordMem with ⟨token, tokenMem, rfl⟩
    exact content.words token tokenMem
  have meaningful : ((Text.join " " (first :: rest)).toList.isEmpty ||
      (Text.join " " (first :: rest)).toList.head? == some '#') = false := by
    rw [starts, spelled]
    simpa using unmarked
  rw [ofChars?, content.trimChars_join, meaningful, words]
  simp [Function.comp_def]

theorem ne_newline_of_mem_join (content : IsContent tokens) :
    ∀ character ∈ (Text.join " " tokens).toList, (character == '\n') = false := by
  intro character characterMem
  rcases mem_join characterMem with rfl | ⟨token, tokenMem, within⟩
  · rfl
  · have visible := (content.words token tokenMem).plain character within
    rw [beq_eq_false_iff_ne]
    rintro rfl
    cases visible

theorem all_join (content : IsContent tokens) :
    all (Text.join " " tokens) = [⟨1, tokens⟩] := by
  have single : (Text.join " " tokens).toList.splitOn '\n' = [(Text.join " " tokens).toList] := by
    apply List.splitOn_eq_singleton
    intro lineFeedMem
    simpa using content.ne_newline_of_mem_join '\n' lineFeedMem
  rw [all, single, collect, collect, content.ofChars?_join]
  rfl

end IsContent

theorem collect_append (number : Nat) (front behind : List (List Char)) :
    collect number (front ++ behind) =
      collect number front ++ collect (number + front.length) behind := by
  induction front generalizing number with
  | nil => rfl
  | cons first rest ih =>
      rw [List.cons_append, collect, collect, ih, List.append_assoc, List.length_cons,
        Nat.add_right_comm]
      rfl

end RuleLine

namespace Grammar

variable {Rule : Type} {grammar : Grammar Rule} {wordsOf : Rule → List String} {rules : List Rule}
  {text : String}

/-- The rule is written with words that are read as the rule. -/
structure Keeps (grammar : Grammar Rule) (rule : Rule) (words : List String) : Prop where
  written : grammar.renderRule rule = Text.join " " words
  content : RuleLine.IsContent words
  read : ∀ number, grammar.parseLine ⟨number, words⟩ = some rule

theorem map_tokens_collect (keeps : ∀ rule ∈ rules, grammar.Keeps rule (wordsOf rule))
    (number : Nat) :
    (RuleLine.collect number ((grammar.render ⟨rules⟩).toList.splitOn '\n')).map
      RuleLine.tokens = rules.map wordsOf := by
  induction rules generalizing number with
  | nil => rfl
  | cons rule rest ih =>
      rw [List.forall_mem_cons] at keeps
      have written : (grammar.render ⟨rule :: rest⟩).toList =
          (Text.join " " (wordsOf rule)).toList ++ '\n' :: (grammar.render ⟨rest⟩).toList := by
        simp [render, keeps.1.written]
      have lines : (grammar.render ⟨rule :: rest⟩).toList.splitOn '\n' =
          (Text.join " " (wordsOf rule)).toList ::
            (grammar.render ⟨rest⟩).toList.splitOn '\n' := by
        rw [written, List.splitOn_eq_splitOnP, List.splitOnP_append_cons_of_forall_mem
          keeps.1.content.ne_newline_of_mem_join '\n' rfl, ← List.splitOn_eq_splitOnP]
      rw [lines, RuleLine.collect, keeps.1.content.ofChars?_join, Option.toList_some,
        List.singleton_append, List.map_cons, ih keeps.2, List.map_cons]

/-- A text whose lines are the words of rules is read as these rules. -/
theorem parse_of_map_tokens (keeps : ∀ rule ∈ rules, grammar.Keeps rule (wordsOf rule))
    (lines : (RuleLine.all text).map RuleLine.tokens = rules.map wordsOf) :
    grammar.parse text = ⟨rules⟩ := by
  rw [parse]
  congr 1
  generalize RuleLine.all text = found at lines
  induction rules generalizing found with
  | nil => simp_all
  | cons rule rest ih =>
      rw [List.forall_mem_cons] at keeps
      cases found with
      | nil => cases lines
      | cons line behind =>
          rw [List.map_cons, List.map_cons, List.cons.injEq] at lines
          have read : grammar.parseLine line = some rule := by
            have read := keeps.1.read line.number
            rwa [← lines.1] at read
          rw [List.filterMap_cons_some read, ih keeps.2 behind lines.2]

/-- A text whose lines are sound is sound. -/
theorem messages_validate_of_map_tokens
    (sound : ∀ rule ∈ rules, ∀ number, (grammar.checkLine ⟨number, wordsOf rule⟩).messages = [])
    (lines : (RuleLine.all text).map RuleLine.tokens = rules.map wordsOf) :
    (grammar.validate text).messages = [] := by
  refine List.flatMap_eq_nil_iff.mpr fun line lineMem => ?_
  have tokensMem : line.tokens ∈ rules.map wordsOf := lines ▸ List.mem_map_of_mem lineMem
  rcases List.mem_map.mp tokensMem with ⟨rule, ruleMem, same⟩
  have clean := sound rule ruleMem line.number
  rwa [same] at clean

theorem parse_render (keeps : ∀ rule ∈ rules, grammar.Keeps rule (wordsOf rule)) :
    grammar.parse (grammar.render ⟨rules⟩) = ⟨rules⟩ :=
  parse_of_map_tokens keeps (map_tokens_collect keeps 1)

end Grammar

end Gatehouse
