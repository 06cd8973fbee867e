import Gatehouse.Text.Pieces

/-!
# Reports

The result of strict checking: one message for each defect, in the order in
which the defects were found.  Content is sound exactly when there is none.
-/

namespace Gatehouse

/-- The defects that a strict check found. -/
structure Report where
  /-- One message for each defect, with its place in front. -/
  messages : List String
  deriving DecidableEq, Repr, Inhabited

namespace Report

def clean : Report :=
  ⟨[]⟩

def isOk (report : Report) : Bool :=
  report.messages.isEmpty

/-- A message with its place in front. -/
def entry (place message : String) : String :=
  place ++ ": " ++ message

def add (report : Report) (place message : String) : Report :=
  ⟨report.messages ++ [entry place message]⟩

/-- The one-line form that error messages carry. -/
def summary (report : Report) : String :=
  "validation failed: " ++ Text.join "; " report.messages

end Report

end Gatehouse
