import Gatehouse.Unicode.CategoryTable
import Gatehouse.Unicode.PropertyTable
import Gatehouse.Unicode.Spans

/-!
# Categories and properties of characters

The general categories with their two-letter names, the groups of categories
that a single letter names, and the few further properties that patterns and
quoted text ask about.
-/

namespace Gatehouse.Unicode

/-- A general category; every code point has exactly one. -/
inductive Category where
  | uppercaseLetter
  | lowercaseLetter
  | titlecaseLetter
  | modifierLetter
  | otherLetter
  | nonspacingMark
  | spacingMark
  | enclosingMark
  | decimalNumber
  | letterNumber
  | otherNumber
  | connectorPunctuation
  | dashPunctuation
  | openPunctuation
  | closePunctuation
  | initialPunctuation
  | finalPunctuation
  | otherPunctuation
  | mathSymbol
  | currencySymbol
  | modifierSymbol
  | otherSymbol
  | spaceSeparator
  | lineSeparator
  | paragraphSeparator
  | control
  | format
  | surrogate
  | privateUse
  | unassigned
  deriving DecidableEq, Repr

namespace Category

/-- All categories that are listed in a table. -/
def assigned : List Category :=
  [.uppercaseLetter, .lowercaseLetter, .titlecaseLetter, .modifierLetter, .otherLetter,
    .nonspacingMark, .spacingMark, .enclosingMark, .decimalNumber, .letterNumber,
    .otherNumber, .connectorPunctuation, .dashPunctuation, .openPunctuation,
    .closePunctuation, .initialPunctuation, .finalPunctuation, .otherPunctuation, .mathSymbol,
    .currencySymbol, .modifierSymbol, .otherSymbol, .spaceSeparator, .lineSeparator,
    .paragraphSeparator, .control, .format, .surrogate, .privateUse]

/-- The two-letter name of a category. -/
def code : Category → String
  | .uppercaseLetter => "Lu"
  | .lowercaseLetter => "Ll"
  | .titlecaseLetter => "Lt"
  | .modifierLetter => "Lm"
  | .otherLetter => "Lo"
  | .nonspacingMark => "Mn"
  | .spacingMark => "Mc"
  | .enclosingMark => "Me"
  | .decimalNumber => "Nd"
  | .letterNumber => "Nl"
  | .otherNumber => "No"
  | .connectorPunctuation => "Pc"
  | .dashPunctuation => "Pd"
  | .openPunctuation => "Ps"
  | .closePunctuation => "Pe"
  | .initialPunctuation => "Pi"
  | .finalPunctuation => "Pf"
  | .otherPunctuation => "Po"
  | .mathSymbol => "Sm"
  | .currencySymbol => "Sc"
  | .modifierSymbol => "Sk"
  | .otherSymbol => "So"
  | .spaceSeparator => "Zs"
  | .lineSeparator => "Zl"
  | .paragraphSeparator => "Zp"
  | .control => "Cc"
  | .format => "Cf"
  | .surrogate => "Cs"
  | .privateUse => "Co"
  | .unassigned => "Cn"

/-- The full name of a category, in small letters and without separators. -/
def name : Category → String
  | .uppercaseLetter => "uppercaseletter"
  | .lowercaseLetter => "lowercaseletter"
  | .titlecaseLetter => "titlecaseletter"
  | .modifierLetter => "modifierletter"
  | .otherLetter => "otherletter"
  | .nonspacingMark => "nonspacingmark"
  | .spacingMark => "spacingmark"
  | .enclosingMark => "enclosingmark"
  | .decimalNumber => "decimalnumber"
  | .letterNumber => "letternumber"
  | .otherNumber => "othernumber"
  | .connectorPunctuation => "connectorpunctuation"
  | .dashPunctuation => "dashpunctuation"
  | .openPunctuation => "openpunctuation"
  | .closePunctuation => "closepunctuation"
  | .initialPunctuation => "initialpunctuation"
  | .finalPunctuation => "finalpunctuation"
  | .otherPunctuation => "otherpunctuation"
  | .mathSymbol => "mathsymbol"
  | .currencySymbol => "currencysymbol"
  | .modifierSymbol => "modifiersymbol"
  | .otherSymbol => "othersymbol"
  | .spaceSeparator => "spaceseparator"
  | .lineSeparator => "lineseparator"
  | .paragraphSeparator => "paragraphseparator"
  | .control => "control"
  | .format => "format"
  | .surrogate => "surrogate"
  | .privateUse => "privateuse"
  | .unassigned => "unassigned"

/-- The written table of a category. -/
def table : Category → String
  | .uppercaseLetter => CategoryTable.uppercaseLetter
  | .lowercaseLetter => CategoryTable.lowercaseLetter
  | .titlecaseLetter => CategoryTable.titlecaseLetter
  | .modifierLetter => CategoryTable.modifierLetter
  | .otherLetter => CategoryTable.otherLetter
  | .nonspacingMark => CategoryTable.nonspacingMark
  | .spacingMark => CategoryTable.spacingMark
  | .enclosingMark => CategoryTable.enclosingMark
  | .decimalNumber => CategoryTable.decimalNumber
  | .letterNumber => CategoryTable.letterNumber
  | .otherNumber => CategoryTable.otherNumber
  | .connectorPunctuation => CategoryTable.connectorPunctuation
  | .dashPunctuation => CategoryTable.dashPunctuation
  | .openPunctuation => CategoryTable.openPunctuation
  | .closePunctuation => CategoryTable.closePunctuation
  | .initialPunctuation => CategoryTable.initialPunctuation
  | .finalPunctuation => CategoryTable.finalPunctuation
  | .otherPunctuation => CategoryTable.otherPunctuation
  | .mathSymbol => CategoryTable.mathSymbol
  | .currencySymbol => CategoryTable.currencySymbol
  | .modifierSymbol => CategoryTable.modifierSymbol
  | .otherSymbol => CategoryTable.otherSymbol
  | .spaceSeparator => CategoryTable.spaceSeparator
  | .lineSeparator => CategoryTable.lineSeparator
  | .paragraphSeparator => CategoryTable.paragraphSeparator
  | .control => CategoryTable.control
  | .format => CategoryTable.format
  | .surrogate => CategoryTable.surrogate
  | .privateUse => CategoryTable.privateUse
  | .unassigned => ""

end Category

/-- The spans of each assigned category, in the order of `Category.assigned`. -/
def categorySpans : Array Spans :=
  (Category.assigned.map fun category => Spans.ofText category.table).toArray

namespace Category

def isAssigned (code : Nat) : Bool :=
  categorySpans.any fun spans => spans.contains code

def contains (category : Category) (code : Nat) : Bool :=
  match category with
  | .unassigned => !isAssigned code
  | category => ((categorySpans[category.ctorIdx]?).getD #[]).contains code

end Category

def alphabeticSpans : Spans :=
  Spans.ofText PropertyTable.alphabetic

def graphemeExtendSpans : Spans :=
  Spans.ofText PropertyTable.graphemeExtend

def uppercaseSpans : Spans :=
  Spans.ofText PropertyTable.uppercase

def lowercaseSpans : Spans :=
  Spans.ofText PropertyTable.lowercase

def isAlphabetic (code : Nat) : Bool :=
  alphabeticSpans.contains code

/-- A code point extends the character before it. -/
def isGraphemeExtend (code : Nat) : Bool :=
  graphemeExtendSpans.contains code

/-- The categories of code points that have no shape of their own. -/
def shapeless : List Category :=
  [.control, .format, .surrogate, .privateUse, .unassigned, .lineSeparator, .paragraphSeparator,
    .spaceSeparator]

/-- A code point shows a shape, or is the plain space. -/
def isPrintable (code : Nat) : Bool :=
  code == 0x20 || !shapeless.any fun category => category.contains code

end Gatehouse.Unicode
