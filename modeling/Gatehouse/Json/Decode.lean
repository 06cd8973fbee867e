import Gatehouse.Json.Draft
import Gatehouse.Text.Decimal

/-!
# Reading typed values from JSON

Typed reading walks a draft in the order of its text and stops at the first
fault: either the text is no JSON from there on, or a value is of the wrong
type, missing or given twice.  A scalar of the wrong type counts only after it
was read to its end; a list or an object of the wrong type counts at its
opening bracket.

A record may be written as an object or as the list of its fields in order.
Members that a record does not know are passed over, but they must be JSON.
-/

namespace Gatehouse

/-- Why a JSON text has no typed value. -/
inductive JsonFault where
  | malformed
  /-- A value is of the wrong type, missing or given twice. -/
  | mismatch
  deriving DecidableEq, Repr

namespace JsonNumber

/-- The number written as one run of digits, without zeros in front. -/
def significant (number : JsonNumber) : List Char :=
  (number.whole ++ number.fraction.getD []).dropWhile (· == '0')

/-- The power of ten that the run of digits is multiplied with. -/
def scale (number : JsonNumber) : Int :=
  let exponent : Int := match number.exponent with
    | some (negative, digits) =>
        let size : Int := Int.ofNat ((Text.natural? digits).getD 0)
        if negative then -size else size
    | none => 0
  exponent - Int.ofNat (number.fraction.getD []).length

/-- The least size that no floating-point number of 64 bits reaches. -/
def unreachable : Nat := Nat.pow 2 1024 - Nat.pow 2 970

/-- The number is too large for a floating-point number of 64 bits. -/
def isTooLarge (number : JsonNumber) : Bool :=
  let digits := number.significant
  let places := Int.ofNat digits.length + number.scale
  if digits.isEmpty || places < 309 then false
  else if places > 309 then true
  else
    let value := (Text.natural? digits).getD 0
    if 0 ≤ number.scale then unreachable ≤ value * Nat.pow 10 number.scale.toNat
    else unreachable * Nat.pow 10 (-number.scale).toNat ≤ value

/-- The integer that is written, unless it has a point, an exponent or is minus zero. -/
def int? (number : JsonNumber) : Option Int :=
  match number.fraction, number.exponent with
  | none, none =>
      (Text.natural? number.whole).bind fun size =>
        if number.negative then (if size = 0 then none else some (-Int.ofNat size))
        else some (Int.ofNat size)
  | _, _ => none

end JsonNumber

namespace JsonDraft

/-- The fault of a value of the wrong type. -/
def wrongType : JsonDraft → JsonFault
  | .broken => .malformed
  | .text none => .malformed
  | .number value => if value.isTooLarge then .malformed else .mismatch
  | _ => .mismatch

def asText : JsonDraft → Except JsonFault String
  | .text (some value) => .ok value
  | draft => .error draft.wrongType

def asBool : JsonDraft → Except JsonFault Bool
  | .bool value => .ok value
  | draft => .error draft.wrongType

/-- Reads an integer that fits 64 bits with a sign. -/
def asInt64 : JsonDraft → Except JsonFault Int64
  | .number value =>
      match value.int?.filter fun value => -Int.pow 2 63 ≤ value && value < Int.pow 2 63 with
      | some value => .ok (.ofInt value)
      | none => .error (wrongType (.number value))
  | draft => .error draft.wrongType

/-- Reads a value that may be null. -/
def asOptional {α : Type} (read : JsonDraft → Except JsonFault α) :
    JsonDraft → Except JsonFault (Option α)
  | .null => .ok none
  | draft => (read draft).map some

def asList {α : Type} (read : JsonDraft → Except JsonFault α) :
    JsonDraft → Except JsonFault (List α)
  | .list items closed => do
      let values ← items.mapM read
      if closed then return values else throw .malformed
  | draft => .error draft.wrongType

/-- Reads the members of an object one after the other. -/
def readMembersInto {State : Type} (names : List String)
    (set : State → String → JsonDraft → Except JsonFault State) :
    List String → State → List (Option String × JsonDraft) → Except JsonFault State
  | _, state, [] => .ok state
  | _, _, (none, _) :: _ => .error .malformed
  | seen, state, (some key, value) :: rest =>
      if seen.contains key then .error .mismatch
      else if names.contains key then do
        let state ← set state key value
        readMembersInto names set (key :: seen) state rest
      else if value.isWhole then readMembersInto names set seen state rest
      else .error .malformed

/-- Reads the items of a list as the fields of a record. -/
def readItemsInto {State : Type} (set : State → String → JsonDraft → Except JsonFault State) :
    List String → State → List JsonDraft → Except JsonFault State
  | _, state, [] => .ok state
  | [], _, _ :: _ => .error .malformed
  | name :: names, state, value :: rest => do
      let state ← set state name value
      readItemsInto set names state rest

/-- Reads a record: `names` are its fields in order, and `set` takes a field in. -/
def asRecord {State : Type} (names : List String) (initial : State)
    (set : State → String → JsonDraft → Except JsonFault State) :
    JsonDraft → Except JsonFault State
  | .object members closed => do
      let state ← readMembersInto names set [] initial members
      if closed then return state else throw .malformed
  | .list items closed => do
      let state ← readItemsInto set names initial items
      if closed then return state else throw .malformed
  | draft => .error draft.wrongType

/-- The value of a field that must be given. -/
def require {α : Type} : Option α → Except JsonFault α
  | some value => .ok value
  | none => .error .mismatch

def readDocument {α : Type} (read : JsonDraft → Except JsonFault α) (bytes : List UInt8) :
    Except JsonFault α := do
  let (draft, ended) := JsonDraft.read bytes
  let value ← read draft
  if ended then return value else throw .malformed

end JsonDraft

end Gatehouse
