import Gatehouse.Text.Blank
import Gatehouse.Unicode.CaseMap
import Gatehouse.Unicode.Category
import Gatehouse.Unicode.Script

/-!
# Sets of characters in patterns

A class in a pattern is an expression over ranges and properties.  It is kept
as that expression, and a character is tested against it by following the
expression down.
-/

namespace Gatehouse

/-- A set of characters. -/
inductive CharSet where
  | empty
  /-- The characters from one code point to another. -/
  | range (low high : Nat)
  /-- The characters of one of the categories. -/
  | categories (wanted : List Unicode.Category)
  | script (wanted : Unicode.Script)
  /-- Every character that is assigned. -/
  | assigned
  | alphabetic
  | uppercase
  | lowercase
  | graphemeExtend
  | blank
  /-- Characters of one set or another. -/
  | union (first second : CharSet)
  /-- Characters of two sets at once. -/
  | inter (first second : CharSet)
  /-- Characters of one set that are not in another. -/
  | diff (first second : CharSet)
  /-- Characters of exactly one of two sets. -/
  | symmDiff (first second : CharSet)
  /-- Characters outside a set. -/
  | compl (set : CharSet)
  /-- Case variants of the characters of a set. -/
  | fold (set : CharSet)
  /-- Case variants of the characters of a set, among the ASCII letters. -/
  | foldAscii (set : CharSet)
  deriving Repr

namespace CharSet

/-- The case variants of a code point among the ASCII letters. -/
def asciiVariants (code : Nat) : List Nat :=
  if 0x41 ≤ code && code ≤ 0x5A then [code, code + 0x20]
  else if 0x61 ≤ code && code ≤ 0x7A then [code, code - 0x20]
  else [code]

/-- A code point belongs to the set. -/
def contains : CharSet → Nat → Bool
  | .empty, _ => false
  | .range low high, code => low ≤ code && code ≤ high
  | .categories wanted, code => wanted.any fun category => category.contains code
  | .script wanted, code => wanted.contains code
  | .assigned, code => Unicode.Category.isAssigned code
  | .alphabetic, code => Unicode.isAlphabetic code
  | .uppercase, code => Unicode.uppercaseSpans.contains code
  | .lowercase, code => Unicode.lowercaseSpans.contains code
  | .graphemeExtend, code => Unicode.isGraphemeExtend code
  | .blank, code => Text.isBlank (Char.ofNat code)
  | .union first second, code => first.contains code || second.contains code
  | .inter first second, code => first.contains code && second.contains code
  | .diff first second, code => first.contains code && !second.contains code
  | .symmDiff first second, code => first.contains code != second.contains code
  | .compl set, code => !set.contains code
  | .fold set, code => (Unicode.caseVariants code).any fun variant => set.contains variant
  | .foldAscii set, code => (asciiVariants code).any fun variant => set.contains variant

def single (character : Char) : CharSet :=
  .range character.toNat character.toNat

def unions (sets : List CharSet) : CharSet :=
  sets.foldr .union .empty

def any : CharSet :=
  .range 0 0x10FFFF

def asciiDigit : CharSet :=
  .range 0x30 0x39

def asciiLetter : CharSet :=
  .union (.range 0x41 0x5A) (.range 0x61 0x7A)

def asciiBlank : CharSet :=
  .union (.range 0x09 0x0D) (.range 0x20 0x20)

/-- The ASCII characters of words. -/
def asciiWord : CharSet :=
  unions [asciiDigit, asciiLetter, .range 0x5F 0x5F]

def digit : CharSet :=
  .categories [.decimalNumber]

/-- The characters of words: letters, marks, decimal digits, connectors and joiners. -/
def word : CharSet :=
  unions [.range 0x61 0x7A, .range 0x41 0x5A, .alphabetic,
    .categories [.nonspacingMark, .spacingMark, .enclosingMark, .decimalNumber,
      .connectorPunctuation], .range 0x200C 0x200D]

/-- The set that a name means between `[:` and `:]`. -/
def ofAsciiName? : String → Option CharSet
  | "alnum" => some (.union asciiDigit asciiLetter)
  | "alpha" => some asciiLetter
  | "ascii" => some (.range 0x00 0x7F)
  | "blank" => some (.union (.range 0x09 0x09) (.range 0x20 0x20))
  | "cntrl" => some (.union (.range 0x00 0x1F) (.range 0x7F 0x7F))
  | "digit" => some asciiDigit
  | "graph" => some (.range 0x21 0x7E)
  | "lower" => some (.range 0x61 0x7A)
  | "print" => some (.range 0x20 0x7E)
  | "punct" => some (unions [.range 0x21 0x2F, .range 0x3A 0x40, .range 0x5B 0x60,
      .range 0x7B 0x7E])
  | "space" => some asciiBlank
  | "upper" => some (.range 0x41 0x5A)
  | "word" => some asciiWord
  | "xdigit" => some (unions [asciiDigit, .range 0x41 0x46, .range 0x61 0x66])
  | _ => none

end CharSet

end Gatehouse
