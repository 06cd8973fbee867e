import Gatehouse.Json.Basic
import Gatehouse.Text.Utf8
import Gatehouse.Unicode.Spans

/-!
# Reading JSON with its faults

A body that is not JSON still has a readable beginning, and which fault counts
is decided by what comes first.  So reading never fails: it answers with a
draft, a tree of what was read up to the first fault of form, and the fault is
a leaf of the tree.  A list or an object that the fault cuts off is marked as
not closed.

A text whose escapes or bytes are no characters is a draft too; it is a fault
only where the text is asked for.
-/

namespace Gatehouse

/-- What was read of a JSON text up to its first fault of form. -/
inductive JsonDraft where
  /-- Nothing readable stands here. -/
  | broken
  | null
  | bool (value : Bool)
  | number (value : JsonNumber)
  /-- A text, unless its escapes or bytes are no characters. -/
  | text (value : Option String)
  /-- A list, and whether it was closed. -/
  | list (items : List JsonDraft) (closed : Bool)
  /-- An object, and whether it was closed. -/
  | object (members : List (Option String × JsonDraft)) (closed : Bool)
  deriving Repr

namespace JsonDraft

def skipBlanks : List UInt8 → List UInt8
  | [] => []
  | byte :: rest =>
      if byte == 0x20 || byte == 0x0A || byte == 0x0D || byte == 0x09 then skipBlanks rest
      else byte :: rest

def isDigit (byte : UInt8) : Bool :=
  0x30 ≤ byte && byte ≤ 0x39

/-- A run of digits and what follows it. -/
def takeDigits (bytes : List UInt8) : List Char × List UInt8 :=
  ((bytes.takeWhile isDigit).map fun byte => Char.ofNat byte.toNat, bytes.dropWhile isDigit)

/-- A fraction, if there is one; a point without digits is a fault. -/
def readFraction : List UInt8 → Option (Option (List Char) × List UInt8)
  | 0x2E :: rest =>
      let (digits, rest) := takeDigits rest
      if digits.isEmpty then none else some (some digits, rest)
  | bytes => some (none, bytes)

/-- The digits of an exponent behind its sign. -/
def readExponentDigits (negative : Bool) (bytes : List UInt8) :
    Option (Option (Bool × List Char) × List UInt8) :=
  let (digits, rest) := takeDigits bytes
  if digits.isEmpty then none else some (some (negative, digits), rest)

/-- An exponent, if there is one; one without digits is a fault. -/
def readExponent : List UInt8 → Option (Option (Bool × List Char) × List UInt8)
  | [] => some (none, [])
  | byte :: rest =>
      if byte == 0x65 || byte == 0x45 then
        match rest with
        | 0x2D :: rest => readExponentDigits true rest
        | 0x2B :: rest => readExponentDigits false rest
        | rest => readExponentDigits false rest
      else some (none, byte :: rest)

/-- A number behind its sign; a zero in front of further digits is a fault. -/
def readNumber (negative : Bool) (bytes : List UInt8) : Option (JsonNumber × List UInt8) := do
  let (whole, rest) := takeDigits bytes
  if whole.isEmpty || (whole.head? == some '0' && whole.length > 1) then none
  else
    let (fraction, rest) ← readFraction rest
    let (exponent, rest) ← readExponent rest
    return (⟨negative, whole, fraction, exponent⟩, rest)

/-- The value of four hexadecimal digits and what follows them. -/
def readHexUnit : List UInt8 → Option (Nat × List UInt8)
  | a :: b :: c :: d :: rest =>
      (Unicode.hexValue? ([a, b, c, d].map fun byte => Char.ofNat byte.toNat)).map (·, rest)
  | _ => none

/-- The byte that a one-letter escape stands for. -/
def simpleEscape? : UInt8 → Option UInt8
  | 0x22 => some 0x22
  | 0x5C => some 0x5C
  | 0x2F => some 0x2F
  | 0x62 => some 0x08
  | 0x66 => some 0x0C
  | 0x6E => some 0x0A
  | 0x72 => some 0x0D
  | 0x74 => some 0x09
  | _ => none

/-- The bytes of a text so far, last first, or none once an escape was no character. -/
abbrev TextSoFar := Option (List UInt8)

/-- Appends a character. -/
def TextSoFar.push (soFar : TextSoFar) (code : Nat) : TextSoFar :=
  soFar.map fun bytes => (String.utf8EncodeChar (Char.ofNat code)).reverse ++ bytes

/-- Reads a text behind its opening quotation mark, byte by byte: the text, and
what follows the closing mark.  The third argument is the surrogate that awaits
its other half. -/
def readText : Nat → TextSoFar → Option Nat → List UInt8 → Option (Option String × List UInt8)
  | 0, _, _, _ => none
  | _ + 1, _, _, [] => none
  | fuel + 1, soFar, pending, byte :: rest =>
      if byte == 0x5C then
        match rest with
        | 0x75 :: rest =>
            match readHexUnit rest with
            | none => none
            | some (unit, rest) =>
                match pending with
                | some high =>
                    if 0xDC00 ≤ unit ∧ unit ≤ 0xDFFF then
                      readText fuel
                        (soFar.push (0x10000 + (high - 0xD800) * 0x400 + (unit - 0xDC00)))
                        none rest
                    else readText fuel none none rest
                | none =>
                    if 0xD800 ≤ unit ∧ unit ≤ 0xDBFF then readText fuel soFar (some unit) rest
                    else if 0xDC00 ≤ unit ∧ unit ≤ 0xDFFF then readText fuel none none rest
                    else readText fuel (soFar.push unit) none rest
        | escape :: rest =>
            match simpleEscape? escape with
            | none => none
            | some meant =>
                readText fuel (if pending.isSome then none else soFar.map (meant :: ·)) none rest
        | [] => none
      else if byte == 0x22 then
        match pending, soFar with
        | none, some bytes => some (Text.decode? ⟨bytes.reverse.toArray⟩, rest)
        | _, _ => some (none, rest)
      else if byte < 0x20 then none
      else readText fuel (if pending.isSome then none else soFar.map (byte :: ·)) none rest

/-- What follows a word, if the bytes start with it. -/
def dropWord (word : String) (bytes : List UInt8) : Option (List UInt8) :=
  let expected := word.toUTF8.data.toList
  if expected.isPrefixOf bytes then some (bytes.drop expected.length) else none

mutual

/-- Reads a value and what follows it. -/
def readValue : Nat → List UInt8 → JsonDraft × List UInt8
  | 0, bytes => (.broken, bytes)
  | fuel + 1, bytes =>
      match skipBlanks bytes with
      | [] => (.broken, [])
      | byte :: rest =>
          if byte == 0x5B then
            match skipBlanks rest with
            | 0x5D :: rest => (.list [] true, rest)
            | rest => readItems fuel [] rest
          else if byte == 0x7B then
            match skipBlanks rest with
            | 0x7D :: rest => (.object [] true, rest)
            | rest => readMembers fuel [] rest
          else if byte == 0x22 then
            match readText fuel (some []) none rest with
            | some (value, rest) => (.text value, rest)
            | none => (.broken, rest)
          else if byte == 0x2D then
            match readNumber true rest with
            | some (value, rest) => (.number value, rest)
            | none => (.broken, rest)
          else if isDigit byte then
            match readNumber false (byte :: rest) with
            | some (value, rest) => (.number value, rest)
            | none => (.broken, rest)
          else
            match dropWord "null" (byte :: rest), dropWord "true" (byte :: rest),
              dropWord "false" (byte :: rest) with
            | some rest, _, _ => (.null, rest)
            | _, some rest, _ => (.bool true, rest)
            | _, _, some rest => (.bool false, rest)
            | _, _, _ => (.broken, rest)

def readItems : Nat → List JsonDraft → List UInt8 → JsonDraft × List UInt8
  | 0, items, bytes => (.list items.reverse false, bytes)
  | fuel + 1, items, bytes =>
      let (item, rest) := readValue fuel bytes
      match skipBlanks rest with
      | 0x2C :: rest => readItems fuel (item :: items) rest
      | 0x5D :: rest => (.list (item :: items).reverse true, rest)
      | rest => (.list (item :: items).reverse false, rest)

def readMembers : Nat → List (Option String × JsonDraft) → List UInt8 → JsonDraft × List UInt8
  | 0, members, bytes => (.object members.reverse false, bytes)
  | fuel + 1, members, bytes =>
      match skipBlanks bytes with
      | 0x22 :: rest =>
          match readText fuel (some []) none rest with
          | none => (.object members.reverse false, rest)
          | some (key, rest) =>
              match skipBlanks rest with
              | 0x3A :: rest =>
                  let (value, rest) := readValue fuel rest
                  match skipBlanks rest with
                  | 0x2C :: rest => readMembers fuel ((key, value) :: members) rest
                  | 0x7D :: rest => (.object ((key, value) :: members).reverse true, rest)
                  | rest => (.object ((key, value) :: members).reverse false, rest)
              | rest => (.object ((key, .broken) :: members).reverse false, rest)
      | rest => (.object members.reverse false, rest)

end

/-- Reads a document: its draft, and whether nothing but blanks follows. -/
def read (bytes : List UInt8) : JsonDraft × Bool :=
  let (draft, rest) := readValue (2 * bytes.length + 2) bytes
  (draft, (skipBlanks rest).isEmpty)

mutual

/-- No fault of form was met. -/
def isWhole : JsonDraft → Bool
  | .broken => false
  | .list items closed => closed && areWhole items
  | .object members closed => closed && areWholeMembers members
  | _ => true

/-- No fault of form was met in a list of items. -/
def areWhole : List JsonDraft → Bool
  | [] => true
  | item :: rest => item.isWhole && areWhole rest

/-- No fault of form was met in a list of members. -/
def areWholeMembers : List (Option String × JsonDraft) → Bool
  | [] => true
  | (_, value) :: rest => value.isWhole && areWholeMembers rest

end

mutual

def value? : JsonDraft → Option Json
  | .broken => none
  | .null => some .null
  | .bool value => some (.bool value)
  | .number value => some (.number value)
  | .text value => value.map .text
  | .list items closed => if closed then (values? items).map .list else none
  | .object members closed => if closed then (memberValues? members).map .object else none

def values? : List JsonDraft → Option (List Json)
  | [] => some []
  | item :: rest => do return (← item.value?) :: (← values? rest)

def memberValues? : List (Option String × JsonDraft) → Option (List (String × Json))
  | [] => some []
  | (key, value) :: rest => do return (← key, ← value.value?) :: (← memberValues? rest)

end

end JsonDraft

/-- The value of a complete JSON document. -/
def Json.parse? (bytes : List UInt8) : Option Json :=
  match JsonDraft.read bytes with
  | (draft, true) => draft.value?
  | _ => none

end Gatehouse
