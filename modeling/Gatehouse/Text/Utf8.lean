/-!
# Bytes and text

Files and headers hold bytes.  `decode?` reads them as UTF-8 and refuses
anything else; `decodeLossy` always answers, with one replacement character
for each maximal stretch that no character starts with.
-/

namespace Gatehouse.Text

/-- The text that UTF-8 bytes stand for, if they are UTF-8. -/
def decode? (bytes : ByteArray) : Option String :=
  String.fromUTF8? bytes

def encode (text : String) : ByteArray :=
  text.toUTF8

def replacement : Char := '\uFFFD'

/-- What a first byte asks of the bytes behind it: their number, the bounds of
the next one, and the bits it contributes itself. -/
structure Lead where
  following : Nat
  lowest : Nat
  highest : Nat
  bits : Nat

/-- The lead that a byte is, unless no character starts with it. -/
def lead? (byte : Nat) : Option Lead :=
  if byte < 0x80 then some ⟨0, 0x80, 0xBF, byte⟩
  else if byte < 0xC2 then none
  else if byte < 0xE0 then some ⟨1, 0x80, 0xBF, byte - 0xC0⟩
  else if byte = 0xE0 then some ⟨2, 0xA0, 0xBF, 0⟩
  else if byte = 0xED then some ⟨2, 0x80, 0x9F, byte - 0xE0⟩
  else if byte < 0xF0 then some ⟨2, 0x80, 0xBF, byte - 0xE0⟩
  else if byte = 0xF0 then some ⟨3, 0x90, 0xBF, 0⟩
  else if byte < 0xF4 then some ⟨3, 0x80, 0xBF, byte - 0xF0⟩
  else if byte = 0xF4 then some ⟨3, 0x80, 0x8F, 4⟩
  else none

/-- A character under way: the bytes still owed, the bounds of the next byte
and the bits so far. -/
abbrev Pending := Lead

/-- Reads one byte after the start of a character, if it may stand there. -/
def Pending.push? (pending : Pending) (byte : Nat) : Option Pending :=
  if pending.lowest ≤ byte ∧ byte ≤ pending.highest then
    some ⟨pending.following - 1, 0x80, 0xBF, pending.bits * 64 + (byte - 0x80)⟩
  else none

/-- Reads a first byte: the output so far in reverse, and the character under way. -/
def startChar (output : List Char) (byte : Nat) : List Char × Option Pending :=
  match lead? byte with
  | none => (replacement :: output, none)
  | some lead =>
      if lead.following = 0 then (Char.ofNat lead.bits :: output, none) else (output, some lead)

/-- Reads one more byte. -/
def lossyStep (state : List Char × Option Pending) (byte : UInt8) : List Char × Option Pending :=
  match state.2 with
  | none => startChar state.1 byte.toNat
  | some pending =>
      match pending.push? byte.toNat with
      | none => startChar (replacement :: state.1) byte.toNat
      | some pushed =>
          if pushed.following = 0 then (Char.ofNat pushed.bits :: state.1, none)
          else (state.1, some pushed)

/-- The text of any bytes, with one replacement character for each maximal
stretch of bytes that is no character. -/
def decodeLossy (bytes : ByteArray) : String :=
  match bytes.data.foldl lossyStep ([], none) with
  | (output, none) => .ofList output.reverse
  | (output, some _) => .ofList (replacement :: output).reverse

end Gatehouse.Text
