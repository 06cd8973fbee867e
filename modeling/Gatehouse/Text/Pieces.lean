import Gatehouse.Text.Blank

/-!
# Pieces of a text

Cutting a text at a separator, reading `key=value` pairs and comma lists, and
the two case maps that touch ASCII letters only.
-/

namespace Gatehouse.Text

/-- The pieces between the separators; a text without one is a single piece. -/
def split (separator : Char) (text : String) : List String :=
  (text.toList.splitOn separator).map .ofList

/-- The parts before and after the first separator, if there is one. -/
def cutChars (separator : Char) : List Char → Option (List Char × List Char)
  | [] => none
  | character :: rest =>
      if character = separator then some ([], rest)
      else (cutChars separator rest).map fun (before, after) => (character :: before, after)

/-- The texts before and after the first separator, if there is one. -/
def cut (separator : Char) (text : String) : Option (String × String) :=
  (cutChars separator text.toList).map fun (before, after) => (.ofList before, .ofList after)

def asciiLowerChars (characters : List Char) : List Char :=
  characters.map Char.toLower

def asciiUpperChars (characters : List Char) : List Char :=
  characters.map Char.toUpper

def asciiLower (text : String) : String :=
  .ofList (asciiLowerChars text.toList)

def asciiUpper (text : String) : String :=
  .ofList (asciiUpperChars text.toList)

/-- The trimmed, non-empty entries of a comma list, in order. -/
def commaList (text : String) : List String :=
  ((split ',' text).map trim).filter fun entry => !entry.isEmpty

def startsWith (text start : String) : Bool :=
  start.toList.isPrefixOf text.toList

def endsWith (text ending : String) : Bool :=
  ending.toList.isSuffixOf text.toList

/-- Drops every copy of a character from the end of a text. -/
def dropEnding (ending : Char) (text : String) : String :=
  .ofList (text.toList.reverse.dropWhile (· == ending)).reverse

def join (separator : String) (texts : List String) : String :=
  separator.intercalate texts

end Gatehouse.Text
