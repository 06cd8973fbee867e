import Gatehouse.Unicode.Category

/-!
# Quoted text

How messages show a piece of text: between quotation marks, with the quote,
the backslash and everything that has no shape of its own escaped.  A character
that would merge with the one before it counts as having no shape.
-/

namespace Gatehouse.Text

/-- The escape of a character by its code point in hexadecimal. -/
def codeEscape (character : Char) : List Char :=
  ['\\', 'u', '\x7b'] ++ Nat.toDigits 16 character.toNat ++ ['\x7d']

/-- A character as it stands between quotation marks. -/
def quotedChar (character : Char) : List Char :=
  match character with
  | '\x00' => ['\\', '0']
  | '\t' => ['\\', 't']
  | '\r' => ['\\', 'r']
  | '\n' => ['\\', 'n']
  | '\\' => ['\\', '\\']
  | '"' => ['\\', '"']
  | character =>
      if Unicode.isGraphemeExtend character.toNat || !Unicode.isPrintable character.toNat then
        codeEscape character
      else [character]

def quoted (text : String) : String :=
  .ofList ('"' :: text.toList.flatMap quotedChar ++ ['"'])

end Gatehouse.Text
