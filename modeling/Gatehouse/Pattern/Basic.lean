/-!
# Patterns

A pattern is a text that an engine compiles, together with the program that it
compiles the text to.  Which texts are patterns, what they mean and how the
engine complains about the others is its own affair: whatever handles patterns
takes the engine as it is, and relies on nothing but that one text is always
compiled alike.
-/

namespace Gatehouse

/-- Why an engine compiles a text to no program. -/
structure PatternFault where
  /-- The words of the engine, if it has any. -/
  reason? : Option String
  deriving DecidableEq, Repr

namespace PatternFault

/-- The wording of a fault. -/
def message (fault : PatternFault) : String :=
  match fault.reason? with
  | some reason => "invalid regex: " ++ reason
  | none => "invalid regex"

end PatternFault

/-- An engine for patterns. -/
class PatternEngine where
  /-- What a pattern is compiled to. -/
  Program : Type
  compile : String → Except PatternFault Program
  /-- A match of the program occurs in the text. -/
  isIn : Program → String → Bool

/-- A usable pattern. -/
structure Pattern [PatternEngine] where
  /-- The pattern as written. -/
  source : String
  program : PatternEngine.Program
  compiles : PatternEngine.compile source = .ok program

namespace Pattern

variable [PatternEngine]

/-- The pattern that a text is, if it is one. -/
def ofSource? (source : String) : Option Pattern :=
  match compiles : PatternEngine.compile source with
  | .ok program => some ⟨source, program, compiles⟩
  | .error _ => none

/-- Why a text is no pattern, if it is none. -/
def fault? (source : String) : Option PatternFault :=
  match PatternEngine.compile source with
  | .ok _ => none
  | .error fault => some fault

def isIn (pattern : Pattern) (text : String) : Bool :=
  PatternEngine.isIn pattern.program text

theorem eq_of_source {first second : Pattern} (same : first.source = second.source) :
    first = second := by
  rcases first with ⟨source, program, compiles⟩
  rcases second with ⟨other, otherProgram, otherCompiles⟩
  cases same
  cases compiles.symm.trans otherCompiles
  rfl

theorem source_of_ofSource? {source : String} {pattern : Pattern}
    (found : ofSource? source = some pattern) : pattern.source = source := by
  unfold ofSource? at found
  split at found
  · cases found
    rfl
  · cases found

theorem fault?_eq_none_iff {source : String} :
    fault? source = none ↔ ∃ pattern, ofSource? source = some pattern := by
  unfold fault? ofSource?
  constructor
  · intro clean
    split
    · exact ⟨_, rfl⟩
    · rename_i fault fails
      simp [fails] at clean
  · rintro ⟨pattern, found⟩
    split at found
    · rename_i program compiles
      simp [compiles]
    · cases found

@[simp]
theorem ofSource?_source (pattern : Pattern) : ofSource? pattern.source = some pattern := by
  have clean : fault? pattern.source = none := by simp [fault?, pattern.compiles]
  rcases fault?_eq_none_iff.mp clean with ⟨other, found⟩
  rw [found, eq_of_source (source_of_ofSource? found)]

instance : DecidableEq Pattern := fun first second =>
  if same : first.source = second.source then isTrue (eq_of_source same)
  else isFalse fun equal => same (equal ▸ rfl)

end Pattern

end Gatehouse
