import Gatehouse.Bypass
import Gatehouse.Cache.Draft
import Gatehouse.Proofs.Cache.Writing

/-!
# Reading, writing and reading again

Reading is lenient, so different texts are read as one ruleset, and writing the
ruleset need not give the text back.  It gives a text that is read as the same
ruleset.  This holds of every text, since whatever was read, even from a line that
is full of defects, is made of words that can be written.
-/

namespace Gatehouse

variable {line : RuleLine}

namespace BypassEntry

/-- The words that an entry is written with. -/
def wordsOf (entry : BypassEntry) : List String :=
  entry.path :: entry.ruleFile.toList

theorem render_eq_join (entry : BypassEntry) : entry.render = Text.join " " entry.wordsOf := by
  rcases entry with ⟨path, _ | file⟩ <;> simp [render, wordsOf, Text.join]

theorem keeps_of_ofLine? {entry : BypassEntry} (content : RuleLine.IsContent line.tokens)
    (read : ofLine? line = some entry) : bypassGrammar.Keeps entry entry.wordsOf := by
  rcases List.exists_cons_of_ne_nil content.nonempty with ⟨path, rest, tokens⟩
  have fields : entry = ⟨path, rest.find? isRuleFile⟩ := by
    rw [ofLine?, RuleLine.arguments, tokens] at read
    exact (Option.some.inj read).symm
  subst fields
  constructor
  case written => exact render_eq_join _
  case content =>
      refine ⟨List.cons_ne_nil _ _, fun token tokenMem => content.words token ?_, ?_⟩
      · rw [tokens]
        rcases List.mem_cons.mp tokenMem with rfl | fileMem
        · exact List.mem_cons_self
        · exact List.mem_cons_of_mem path (List.mem_of_find?_eq_some (Option.mem_toList.mp fileMem))
      · rintro first ⟨⟩
        exact content.unmarked path (by rw [tokens]; rfl)
  case read =>
      intro number
      change some (BypassEntry.mk path ((rest.find? isRuleFile).toList.find? isRuleFile)) = _
      cases found : rest.find? isRuleFile with
      | none => rfl
      | some file =>
          have refers := List.find?_some found
          rw [Option.toList_some, List.find?_singleton, if_pos refers]

end BypassEntry

namespace CacheRule

variable [PatternEngine]

theorem keeps_of_ofLine? {rule : CacheRule} (content : RuleLine.IsContent line.tokens)
    (read : ofLine? line = some rule) : cacheGrammar.Keeps rule rule.wordsOf :=
  ((ofLine?_eq_some_iff.mp read).isWritable content.words).keeps

end CacheRule

namespace Ruleset

variable [PatternEngine]

/-- The comment in front of a cache file holds no line that means something. -/
theorem map_tokens_cacheFile {rules : List CacheRule}
    (keeps : ∀ rule ∈ rules, cacheGrammar.Keeps rule rule.wordsOf) :
    (RuleLine.all (cacheFile ⟨rules⟩)).map RuleLine.tokens = rules.map CacheRule.wordsOf := by
  have written : (cacheFile ⟨rules⟩).toList =
      cacheFileHeader.toList ++ '\n' :: (cacheGrammar.render ⟨rules⟩).toList := by
    simp [cacheFile]
  have comments : RuleLine.collect 1 (cacheFileHeader.toList.splitOn '\n') = [] := by
    decide +kernel
  rw [RuleLine.all, written, List.splitOn_eq_splitOnP, List.splitOnP_append_cons _ _ (by simp),
    ← List.splitOn_eq_splitOnP, ← List.splitOn_eq_splitOnP, RuleLine.collect_append, comments,
    List.nil_append, Grammar.map_tokens_collect keeps]

end Ruleset

namespace Grammar

variable {Rule : Type} {grammar : Grammar Rule} {text : String} {rule : Rule}

theorem exists_of_mem_parse (ruleMem : rule ∈ (grammar.parse text).rules) :
    ∃ line, RuleLine.IsContent line.tokens ∧ grammar.parseLine line = some rule := by
  rcases List.mem_filterMap.mp ruleMem with ⟨line, lineMem, read⟩
  exact ⟨line, RuleLine.isContent_of_mem_all lineMem, read⟩

/-- A text that was read once can be written and read again. -/
theorem parse_render_parse [PatternEngine] (text : String) :
    bypassGrammar.parse (bypassGrammar.render (bypassGrammar.parse text)) =
        bypassGrammar.parse text ∧
      cacheGrammar.parse (cacheGrammar.render (cacheGrammar.parse text)) =
        cacheGrammar.parse text ∧
      cacheGrammar.parse (cacheGrammar.parse text).cacheFile = cacheGrammar.parse text := by
  have bypass : ∀ entry ∈ (bypassGrammar.parse text).rules,
      bypassGrammar.Keeps entry entry.wordsOf := by
    intro entry entryMem
    rcases exists_of_mem_parse entryMem with ⟨line, content, read⟩
    exact BypassEntry.keeps_of_ofLine? content read
  have cache : ∀ rule ∈ (cacheGrammar.parse text).rules, cacheGrammar.Keeps rule rule.wordsOf := by
    intro rule ruleMem
    rcases exists_of_mem_parse ruleMem with ⟨line, content, read⟩
    exact CacheRule.keeps_of_ofLine? content read
  exact ⟨parse_render bypass, parse_render cache,
    parse_of_map_tokens cache (Ruleset.map_tokens_cacheFile cache)⟩

end Grammar

end Gatehouse
