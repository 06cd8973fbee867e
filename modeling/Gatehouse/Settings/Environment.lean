import Gatehouse.Text.Utf8

/-!
# Environments

The variables that settings are read from.  A value holds bytes; one that is
not UTF-8 counts as not set.
-/

namespace Gatehouse

/-- The variables of a process. -/
structure Environment where
  /-- The names with their values; of one name the first counts. -/
  entries : List (String × ByteArray)

namespace Environment

/-- The text of a variable, if it is set to a text. -/
def text? (environment : Environment) (name : String) : Option String :=
  (environment.entries.lookup name).bind Text.decode?

/-- The text of a variable, if it is set to a text that is not empty. -/
def given? (environment : Environment) (name : String) : Option String :=
  (environment.text? name).filter fun value => value ≠ ""

def set (environment : Environment) (name value : String) : Environment :=
  ⟨(name, Text.encode value) :: environment.entries⟩

end Environment

end Gatehouse
