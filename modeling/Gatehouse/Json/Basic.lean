import Gatehouse.Text.Pieces

/-!
# JSON values

The values of the admin API and their compact written form: no space, members
in the order given, and in texts only the escapes that JSON demands, with the
short form where there is one.
-/

namespace Gatehouse

/-- A number as written, in the parts that tell an integer from a fraction. -/
structure JsonNumber where
  /-- A minus stands in front. -/
  negative : Bool
  /-- The digits before the point. -/
  whole : List Char
  /-- The digits behind the point, if there is one. -/
  fraction : Option (List Char)
  /-- The sign and the digits of the exponent, if there is one. -/
  exponent : Option (Bool × List Char)
  deriving DecidableEq, Repr

/-- A JSON value. -/
inductive Json where
  | null
  | bool (value : Bool)
  | number (value : JsonNumber)
  | text (value : String)
  | list (items : List Json)
  | object (members : List (String × Json))
  deriving Repr

namespace JsonNumber

/-- The number of an integer. -/
def ofInt (value : Int) : JsonNumber :=
  ⟨value < 0, Nat.toDigits 10 value.natAbs, none, none⟩

def render (number : JsonNumber) : List Char :=
  (if number.negative then ['-'] else []) ++ number.whole ++
    (match number.fraction with
      | some digits => '.' :: digits
      | none => []) ++
    (match number.exponent with
      | some (negative, digits) => 'e' :: (if negative then ['-'] else []) ++ digits
      | none => [])

end JsonNumber

namespace Json

def ofInt (value : Int) : Json :=
  .number (JsonNumber.ofInt value)

def ofNat (value : Nat) : Json :=
  ofInt value

def texts (values : List String) : Json :=
  .list (values.map .text)

/-- A value that may be missing. -/
def optional {α : Type} (encode : α → Json) : Option α → Json
  | some value => encode value
  | none => .null

def escapedChar (character : Char) : List Char :=
  match character with
  | '"' => ['\\', '"']
  | '\\' => ['\\', '\\']
  | '\x08' => ['\\', 'b']
  | '\x0c' => ['\\', 'f']
  | '\n' => ['\\', 'n']
  | '\r' => ['\\', 'r']
  | '\t' => ['\\', 't']
  | character =>
      if character.toNat < 0x20 then
        ['\\', 'u', '0', '0'] ++ [Nat.digitChar (character.toNat / 16),
          Nat.digitChar (character.toNat % 16)]
      else [character]

/-- A JSON text with its quotation marks. -/
def renderText (text : String) : String :=
  .ofList ('"' :: text.toList.flatMap escapedChar ++ ['"'])

mutual

def render : Json → String
  | .null => "null"
  | .bool true => "true"
  | .bool false => "false"
  | .number value => .ofList value.render
  | .text value => renderText value
  | .list items => "[" ++ ",".intercalate (renderItems items) ++ "]"
  | .object members => "\x7b" ++ ",".intercalate (renderMembers members) ++ "\x7d"

def renderItems : List Json → List String
  | [] => []
  | item :: rest => item.render :: renderItems rest

def renderMembers : List (String × Json) → List String
  | [] => []
  | (key, value) :: rest => (renderText key ++ ":" ++ value.render) :: renderMembers rest

end

end Json

end Gatehouse
