/-!
# Blanks and words

Policy files are written in words that blanks keep apart.  A blank is any
character with the `White_Space` property, so a no-break space or an
ideographic space separates words just as a tab does.

A function on a `String` comes with one on a list of characters, where its laws
are stated.
-/

namespace Gatehouse.Text

/-- A blank is a character with the `White_Space` property. -/
def isBlank (character : Char) : Bool :=
  let code := character.toNat
  (9 ≤ code && code ≤ 13) || code == 0x20 || code == 0x85 || code == 0xA0 || code == 0x1680 ||
    (0x2000 ≤ code && code ≤ 0x200A) || code == 0x2028 || code == 0x2029 || code == 0x202F ||
    code == 0x205F || code == 0x3000

def trimStartChars (characters : List Char) : List Char :=
  characters.dropWhile isBlank

def trimEndChars (characters : List Char) : List Char :=
  (characters.reverse.dropWhile isBlank).reverse

def trimChars (characters : List Char) : List Char :=
  trimEndChars (trimStartChars characters)

/-- The longest stretches without a blank, in order. -/
def wordsOfChars (characters : List Char) : List (List Char) :=
  (characters.splitOnP isBlank).filter fun word => !word.isEmpty

def trim (text : String) : String :=
  .ofList (trimChars text.toList)

def hasBlank (text : String) : Bool :=
  text.toList.any isBlank

@[simp]
theorem toList_trim (text : String) : (trim text).toList = trimChars text.toList := by
  simp [trim]

end Gatehouse.Text
