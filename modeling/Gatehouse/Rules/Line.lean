import Gatehouse.Text.Pieces

/-!
# Rule lines

A policy text is read line by line.  Blank lines and lines that start with `#`
mean nothing; every other line is a list of words with its number.  Lines are
counted from one, and every line counts, whether it means something or not.

A carriage return before the end of a line is a blank, so cutting at the line
feed alone and trimming gives both line endings the same reading.
-/

namespace Gatehouse

/-- A meaningful line of a policy text. -/
structure RuleLine where
  /-- The position in the text, counted from one. -/
  number : Nat
  tokens : List String
  deriving DecidableEq, Repr

namespace RuleLine

/-- The first word, or nothing. -/
def keyword (line : RuleLine) : String :=
  line.tokens.headD ""

def arguments (line : RuleLine) : List String :=
  line.tokens.tail

/-- Reads a `key=value` word; the key ends at the first `=` and is taken in small letters. -/
def option? (token : String) : Option (String × String) :=
  (Text.cut '=' token).map fun (key, value) => (Text.asciiLower key, value)

/-- The `key=value` words behind the first word, in order. -/
def options (line : RuleLine) : List (String × String) :=
  line.arguments.filterMap option?

/-- How messages name the line. -/
def place (line : RuleLine) : String :=
  "line " ++ toString line.number

/-- The line that a stretch of text at a position holds, unless it means nothing. -/
def ofChars? (number : Nat) (characters : List Char) : Option RuleLine :=
  let trimmed := Text.trimChars characters
  if trimmed.isEmpty || trimmed.head? == some '#' then none
  else some ⟨number, (Text.wordsOfChars trimmed).map .ofList⟩

/-- The meaningful ones among stretches of text, the first of which has the given number. -/
def collect (number : Nat) : List (List Char) → List RuleLine
  | [] => []
  | characters :: rest => (ofChars? number characters).toList ++ collect (number + 1) rest

def all (text : String) : List RuleLine :=
  collect 1 (text.toList.splitOn '\n')

end RuleLine

end Gatehouse
