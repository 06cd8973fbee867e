import Gatehouse.Rules.Grammar

/-!
# Reports on lines

A report goes through the lines of a text, and a message is a defect of a line
with the place of the line in front.  What a line is read as and what is wrong with
it depend on its words alone, so its number shows in the messages about it and
nowhere else.
-/

namespace Gatehouse.Grammar

variable {Rule : Type} {grammar : Grammar Rule} {defectsOf : RuleLine → List String}
  {text : String} {line : RuleLine}

/-- Lines are read and checked by their words, and `defectsOf` is what checking finds. -/
structure JudgesWords (grammar : Grammar Rule) (defectsOf : RuleLine → List String) : Prop where
  read : ∀ number (line : RuleLine), grammar.parseLine { line with number } = grammar.parseLine line
  found : ∀ number (line : RuleLine), defectsOf { line with number } = defectsOf line
  told : ∀ line, (grammar.checkLine line).messages = (defectsOf line).map (Report.entry line.place)

namespace JudgesWords

theorem mem_messages_iff (judges : grammar.JudgesWords defectsOf) {message : String} :
    message ∈ (grammar.validate text).messages ↔
      ∃ line ∈ RuleLine.all text, ∃ defect ∈ defectsOf line,
        message = Report.entry line.place defect := by
  simp only [validate, List.mem_flatMap, judges.told, List.mem_map, eq_comm (a := message)]

/-- A text is sound if each of its lines is. -/
theorem isOk_validate_iff (judges : grammar.JudgesWords defectsOf) :
    (grammar.validate text).isOk ↔ ∀ line ∈ RuleLine.all text, defectsOf line = [] := by
  simp [Report.isOk, validate, judges.told]

/-- A line with a defect has a message under its own number. -/
theorem exists_message (judges : grammar.JudgesWords defectsOf) (lineMem : line ∈ RuleLine.all text)
    (defective : defectsOf line ≠ []) :
    ∃ defect, Report.entry line.place defect ∈ (grammar.validate text).messages := by
  rcases List.exists_mem_of_ne_nil _ defective with ⟨defect, defectMem⟩
  exact ⟨defect, judges.mem_messages_iff.mpr ⟨line, lineMem, defect, defectMem, rfl⟩⟩

end JudgesWords

end Gatehouse.Grammar
