import Gatehouse.Text.Utf8
import Gatehouse.Unicode.Spans

/-!
# Percent-decoding

A percent sign with two hexadecimal digits stands for one byte.  Decoding works
on bytes: a well-formed escape becomes its byte, and every other byte stays,
also a percent sign that starts no escape.  The result is text only if the
bytes are UTF-8.
-/

namespace Gatehouse.Percent

/-- The value of a byte that is an ASCII hexadecimal digit. -/
def hexByte? (byte : UInt8) : Option UInt8 :=
  (Unicode.hexDigit? (Char.ofNat byte.toNat)).map UInt8.ofNat

/-- Decodes bytes. -/
def decodeBytes : List UInt8 → List UInt8
  | [] => []
  | first :: high :: low :: rest =>
      if first = 0x25 then
        match hexByte? high, hexByte? low with
        | some high, some low => (high * 16 + low) :: decodeBytes rest
        | _, _ => first :: decodeBytes (high :: low :: rest)
      else first :: decodeBytes (high :: low :: rest)
  | byte :: rest => byte :: decodeBytes rest

/-- The bytes that a text stands for. -/
def bytes (text : String) : List UInt8 :=
  decodeBytes text.toUTF8.data.toList

/-- The text that a text stands for, if its bytes are UTF-8. -/
def decode? (text : String) : Option String :=
  Text.decode? ⟨(bytes text).toArray⟩

end Gatehouse.Percent
