import Gatehouse.Bypass
import Gatehouse.Proofs.Rules.Reporting
import Gatehouse.Proofs.Text.Spelling

/-!
# What strict checking of the bypass policy accepts

Checking asks two things of a line.  The bytes that its path spells are a text, and
one word behind the path at most refers to a rule file.  A line that fails in one of
them has a message under its own number, and there are no other messages.

It does not ask that the path be spelled well.  A percent sign that starts no escape
is no defect, since decoding passes over it, although the message on a path speaks
of its percent-encoding.  Where every percent sign starts an escape, what is accepted
is exactly what is well-formed.
-/

namespace Gatehouse

namespace BypassEntry

variable {line : RuleLine} {token : String}

/-- The word refers to a rule file. -/
def RefersToFile (token : String) : Prop :=
  "rules/".toList <+: token.toList ∨ ".conf".toList <:+ token.toList

/-- Checking finds nothing wrong with the line. -/
structure IsSound (line : RuleLine) : Prop where
  readable : ∃ content, Percent.Spells line.keyword.toList (Text.bytesOfChars content)
  /-- No two words behind the path refer to a rule file. -/
  unambiguous : line.arguments.Pairwise fun first second =>
    ¬(RefersToFile first ∧ RefersToFile second)

/-- Every percent sign has two hexadecimal digits behind it. -/
def IsWellEscaped (path : String) : Prop :=
  ∀ before behind, path.toList = before ++ '%' :: behind → Percent.StartsWithHex behind

/-- The line is well-formed, its escapes among the rest. -/
structure IsWellFormed (line : RuleLine) : Prop extends IsSound line where
  escaped : IsWellEscaped line.keyword

/-- The defects of a line, in the order in which they are found. -/
def lineDefects (line : RuleLine) : List String :=
  (if (Percent.decode? line.keyword).isNone then
    ["path " ++ Text.quoted line.keyword ++ " has invalid percent-encoding"] else []) ++
  (if (line.arguments.filter isRuleFile).length > 1 then
    ["more than one rule file reference (only the first would apply)"] else [])

theorem bypassGrammar_judgesWords : bypassGrammar.JudgesWords lineDefects where
  read _ _ := rfl
  found _ _ := rfl
  told line := by
    change (check line).messages = _
    unfold check lineDefects
    dsimp only
    split <;> split <;> rfl

theorem isRuleFile_iff : isRuleFile token ↔ RefersToFile token := by
  simp [isRuleFile, RefersToFile, Text.startsWith, Text.endsWith]

theorem decode?_isSome_iff {path : String} :
    (Percent.decode? path).isSome ↔
      ∃ content, Percent.Spells path.toList (Text.bytesOfChars content) := by
  simp only [Option.isSome_iff_exists, Percent.decode?_eq_some_iff, Percent.standsFor_iff_spells]
  constructor
  · rintro ⟨content, spells⟩
    exact ⟨content.toList, spells⟩
  · rintro ⟨content, spells⟩
    exact ⟨.ofList content, by simpa using spells⟩

/-- At most one of the items is kept by a filter exactly if no two of them are. -/
theorem length_filter_le_one_iff {Item : Type} {keeps : Item → Bool} {items : List Item} :
    (items.filter keeps).length ≤ 1 ↔
      items.Pairwise fun first second => ¬(keeps first ∧ keeps second) := by
  have two : ∀ kept : List Item, kept.length ≤ 1 ↔ kept.Pairwise fun _ _ => False := by
    intro kept
    match kept with
    | [] => simp
    | [_] => simp
    | first :: second :: rest =>
        constructor
        · simp
        · intro apart
          exact (List.rel_of_pairwise_cons apart List.mem_cons_self).elim
  rw [two, List.pairwise_filter]
  simp only [imp_false, not_and]

theorem lineDefects_eq_nil_iff : lineDefects line = [] ↔ IsSound line := by
  have readable : Percent.decode? line.keyword ≠ none ↔
      ∃ content, Percent.Spells line.keyword.toList (Text.bytesOfChars content) := by
    rw [← Option.isSome_iff_ne_none, decode?_isSome_iff]
  have unambiguous : (line.arguments.filter isRuleFile).length ≤ 1 ↔
      line.arguments.Pairwise fun first second => ¬(RefersToFile first ∧ RefersToFile second) := by
    simp only [length_filter_le_one_iff, isRuleFile_iff]
  unfold lineDefects
  simp only [List.append_eq_nil_iff, ite_eq_right_iff, List.cons_ne_nil, imp_false,
    Option.isNone_iff_eq_none, gt_iff_lt, not_lt]
  constructor
  · rintro ⟨decoded, few⟩
    exact ⟨readable.mp decoded, unambiguous.mp few⟩
  · intro sound
    exact ⟨readable.mpr sound.readable, unambiguous.mpr sound.unambiguous⟩

/-- What can be relied on about the report on a text. -/
structure ReportsUnsound (text : String) : Prop where
  accepted : (bypassGrammar.validate text).isOk ↔ ∀ line ∈ RuleLine.all text, IsSound line
  /-- A line that is not sound has a message under its own number. -/
  reported : ∀ line ∈ RuleLine.all text, ¬IsSound line →
    ∃ defect, Report.entry line.place defect ∈ (bypassGrammar.validate text).messages
  /-- There are no other messages. -/
  justified : ∀ message ∈ (bypassGrammar.validate text).messages,
    ∃ line ∈ RuleLine.all text, ¬IsSound line ∧
      ∃ defect, message = Report.entry line.place defect
  /-- What is accepted falls short of being well-formed by its escapes alone. -/
  wellFormed : (∀ line ∈ RuleLine.all text, IsWellFormed line) ↔
    (bypassGrammar.validate text).isOk ∧
      ∀ line ∈ RuleLine.all text, IsWellEscaped line.keyword

theorem validate_reportsUnsound (text : String) : ReportsUnsound text := by
  have accepted : (bypassGrammar.validate text).isOk ↔
      ∀ line ∈ RuleLine.all text, IsSound line := by
    simp only [bypassGrammar_judgesWords.isOk_validate_iff, lineDefects_eq_nil_iff]
  constructor
  case accepted => exact accepted
  case reported =>
      intro line lineMem unsound
      apply bypassGrammar_judgesWords.exists_message lineMem
      rwa [ne_eq, lineDefects_eq_nil_iff]
  case justified =>
      intro message messageMem
      rcases bypassGrammar_judgesWords.mem_messages_iff.mp messageMem with
        ⟨line, lineMem, defect, defectMem, rfl⟩
      refine ⟨line, lineMem, ?_, defect, rfl⟩
      intro sound
      rw [lineDefects_eq_nil_iff.mpr sound] at defectMem
      cases defectMem
  case wellFormed =>
      rw [accepted]
      constructor
      · intro wellFormed
        exact ⟨fun line lineMem => (wellFormed line lineMem).toIsSound,
          fun line lineMem => (wellFormed line lineMem).escaped⟩
      · rintro ⟨sound, escaped⟩ line lineMem
        exact ⟨sound line lineMem, escaped line lineMem⟩

/-- A percent sign that starts no escape is accepted, at the end of a path and within it. -/
theorem malformed_escape_accepted :
    (bypassGrammar.validate "/a%zz\n/b%4\n").isOk ∧
      RuleLine.all "/a%zz\n/b%4\n" = [⟨1, ["/a%zz"]⟩, ⟨2, ["/b%4"]⟩] ∧
        ¬IsWellFormed ⟨1, ["/a%zz"]⟩ ∧ ¬IsWellFormed ⟨2, ["/b%4"]⟩ := by
  refine ⟨by decide +kernel, by decide +kernel, ?_, ?_⟩
  · intro wellFormed
    have digits := wellFormed.escaped "/a".toList "zz".toList (by decide)
    exact absurd digits (by decide)
  · intro wellFormed
    have digits := wellFormed.escaped "/b".toList "4".toList (by decide)
    exact absurd digits (by decide)

end BypassEntry

end Gatehouse
