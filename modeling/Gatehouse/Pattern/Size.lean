import Gatehouse.Pattern.Tree

/-!
# Sizes of patterns

A pattern is run as a machine over bytes, with every counted repetition written
out, and one whose machine would be too large is not usable.  The size of a
machine is estimated in bytes: a state has a fixed size, and a set of
characters takes a state for each way its characters continue byte by byte.
Sets of letters take by far the most.
-/

namespace Gatehouse

namespace CharSet

/-- The size of one state. -/
def stateSize : Nat := 32

/-- The size of one way out of a state. -/
def branchSize : Nat := 8

/-- The size of the set that a range beyond ASCII is, if it is a single character or a range
that starts and ends in one block of 64 characters. -/
def nearSize (high : Nat) : Nat :=
  if high < 0x800 then 4 * stateSize + 4 else if high < 0x10000 then 5 * stateSize + 4
  else 6 * stateSize + 4

/-- The size of the set of a category. -/
def categorySize : Unicode.Category → Nat
  | .unassigned => 41000
  | .otherLetter => 32000
  | .lowercaseLetter | .uppercaseLetter => 27000
  | .nonspacingMark => 18000
  | .otherSymbol => 12700
  | .otherPunctuation => 10700
  | .spacingMark => 9700
  | .otherNumber | .modifierLetter | .decimalNumber => 5000
  | .mathSymbol | .openPunctuation | .closePunctuation => 3800
  | .modifierSymbol | .format | .currencySymbol => 1900
  | _ => 900

/-- The size of the set of several categories; letters of all kinds stand together. -/
def categoriesSize (wanted : List Unicode.Category) : Nat :=
  let largest := (wanted.map categorySize).foldl max 0
  if wanted.contains .otherLetter && wanted.contains .lowercaseLetter then 41000
  else if wanted.contains .unassigned then 41500
  else if wanted.contains .uppercaseLetter && wanted.contains .lowercaseLetter then 9400
  else if wanted.contains .nonspacingMark then max 18000 largest
  else (wanted.map categorySize).foldl (· + ·) 0

def size : CharSet → Nat
  | .empty => stateSize
  | .range low high =>
      if low = high ∧ high < 0x80 then stateSize
      else if high < 0x80 then stateSize + branchSize
      else if low / 64 = high / 64 then nearSize high
      else 960
  | .categories wanted => categoriesSize wanted
  | .alphabetic => 47900
  | .assigned => 41000
  | .uppercase | .lowercase => 27500
  | .graphemeExtend => 18000
  | .script _ => 1500
  | .blank => 680
  | .union first second | .inter first second | .diff first second | .symmDiff first second =>
      max first.size second.size + branchSize
  | .compl set => set.size + 960
  | .fold set => set.size + 2 * branchSize
  | .foldAscii set => set.size + branchSize

end CharSet

namespace PatternTree

/-- The greatest size of a usable pattern. -/
def sizeLimit : Nat := 10 * 1024 * 1024

/-- Every match is empty. -/
def isIdle : PatternTree → Bool
  | .empty | .look _ => true
  | .one _ => false
  | .sequence first second | .choice first second => first.isIdle && second.isIdle
  | .times body _ most => body.isIdle || most == some 0
  | .group body => body.isIdle

def size : PatternTree → Nat
  | .empty => CharSet.stateSize
  | .one set => set.size
  | .look _ => CharSet.stateSize
  | .sequence first second => first.size + second.size
  | .choice first second => first.size + second.size + 2 * CharSet.stateSize
  | .times body least most =>
      if body.isIdle then body.size + 2 * CharSet.stateSize
      else
        match most with
        | none => max least 1 * body.size + 2 * CharSet.stateSize
        | some most =>
            least * body.size + (most - least) * (body.size + CharSet.stateSize +
              CharSet.branchSize) + CharSet.stateSize
  | .group body => body.size + 2 * CharSet.stateSize

/-- The pattern is not too large to be used. -/
def isSmall (tree : PatternTree) : Bool :=
  tree.size ≤ sizeLimit

end PatternTree

end Gatehouse
