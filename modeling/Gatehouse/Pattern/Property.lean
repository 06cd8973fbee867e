import Gatehouse.Pattern.CharSet
import Gatehouse.Text.Pieces

/-!
# Properties by name

A pattern names a property of characters loosely: case, spaces, hyphens and
underscores do not count, nor does `is` in front.  A name is first looked up
among the yes-or-no properties, then among the categories and their groups, and
last among the scripts.
-/

namespace Gatehouse.CharSet

/-- The part of a loose name that counts. -/
def looseName (name : String) : String :=
  let characters := name.toList
  let (hasIs, body) := match characters with
    | first :: second :: rest =>
        if (first = 'i' || first = 'I') && (second = 's' || second = 'S') then (true, rest)
        else (false, characters)
    | _ => (false, characters)
  let kept := body.filterMap fun character =>
    if character = ' ' || character = '_' || character = '-' then none
    else if character.toNat ≤ 0x7F then some character.toLower
    else none
  if hasIs && kept == ['c'] then "isc" else .ofList kept

/-- The groups of categories with their short and long names. -/
def categoryGroups : List (List String × List Unicode.Category) :=
  [(["c", "other"], [.control, .format, .surrogate, .privateUse, .unassigned]),
    (["l", "letter"], [.uppercaseLetter, .lowercaseLetter, .titlecaseLetter, .modifierLetter,
      .otherLetter]),
    (["lc", "casedletter"], [.uppercaseLetter, .lowercaseLetter, .titlecaseLetter]),
    (["m", "mark", "combiningmark"], [.nonspacingMark, .spacingMark, .enclosingMark]),
    (["n", "number"], [.decimalNumber, .letterNumber, .otherNumber]),
    (["p", "punctuation", "punct"], [.connectorPunctuation, .dashPunctuation, .openPunctuation,
      .closePunctuation, .initialPunctuation, .finalPunctuation, .otherPunctuation]),
    (["s", "symbol"], [.mathSymbol, .currencySymbol, .modifierSymbol, .otherSymbol]),
    (["z", "separator"], [.spaceSeparator, .lineSeparator, .paragraphSeparator]),
    (["cntrl"], [.control]),
    (["digit"], [.decimalNumber])]

/-- The set of a general category or a group of them; no character is a surrogate, so that
category has no set. -/
def ofCategoryName? (name : String) : Option CharSet :=
  match name with
  | "any" => some any
  | "ascii" => some (.range 0x00 0x7F)
  | "assigned" => some .assigned
  | name =>
      match categoryGroups.find? fun group => group.1.contains name with
      | some (_, members) => some (.categories members)
      | none =>
          ((.unassigned :: Unicode.Category.assigned).find? fun category =>
            category != .surrogate &&
              (Text.asciiLowerChars category.code.toList == name.toList ||
                category.name == name)).map fun category => .categories [category]

def ofScriptName? (name : String) : Option CharSet :=
  (Unicode.Script.all.find? fun script => script.names.contains name).map .script

/-- The set of a property that a character has or has not. -/
def ofYesNoName? (name : String) : Option CharSet :=
  match name with
  | "alphabetic" | "alpha" => some .alphabetic
  | "uppercase" | "upper" => some .uppercase
  | "lowercase" | "lower" => some .lowercase
  | "whitespace" | "wspace" | "space" => some .blank
  | "graphemeextend" | "grext" => some .graphemeExtend
  | "joincontrol" | "joinc" => some (.range 0x200C 0x200D)
  | "asciihexdigit" | "ahex" =>
      some (unions [asciiDigit, .range 0x41 0x46, .range 0x61 0x66])
  | "hexdigit" | "hex" =>
      some (unions [asciiDigit, .range 0x41 0x46, .range 0x61 0x66, .range 0xFF10 0xFF19,
        .range 0xFF21 0xFF26, .range 0xFF41 0xFF46])
  | _ => none

/-- The set that a name alone means. -/
def ofPropertyName? (name : String) : Option CharSet :=
  let name := looseName name
  (ofYesNoName? name).orElse fun _ =>
    (ofCategoryName? name).orElse fun _ => ofScriptName? name

/-- The set that a property and its value mean. -/
def ofPropertyValue? (property value : String) : Option CharSet :=
  match looseName property with
  | "gc" | "generalcategory" => ofCategoryName? (looseName value)
  | "sc" | "script" => ofScriptName? (looseName value)
  | _ => none

end Gatehouse.CharSet
