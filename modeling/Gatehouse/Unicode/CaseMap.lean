import Gatehouse.Unicode.CaseTable
import Gatehouse.Unicode.Spans

/-!
# Case maps

Two maps on characters: the capital form, which may be several characters, and
the representative of all characters that differ in case only.  Two characters
are case variants of each other exactly when they have one representative.
-/

namespace Gatehouse.Unicode

/-- A span of code points with the step to their images. -/
structure Shift where
  span : Span
  /-- What is added to each. -/
  offset : Int
  deriving Repr

/-- Reads one entry `span:+step` or `span:-step`. -/
def Shift.ofEntry? (entry : List Char) : Option Shift :=
  match entry.splitOn ':' with
  | [span, '-' :: offset] => do return ⟨← Span.ofEntry? span, -Int.ofNat (← hexValue? offset)⟩
  | [span, '+' :: offset] => do return ⟨← Span.ofEntry? span, Int.ofNat (← hexValue? offset)⟩
  | _ => none

/-- Reads the written form of a map. -/
def shiftsOfText (text : String) : List Shift :=
  (text.toList.splitOn ' ').filterMap Shift.ofEntry?

def representativeShifts : Array Shift :=
  (shiftsOfText CaseTable.representative).toArray

def capitalShifts : Array Shift :=
  (shiftsOfText CaseTable.capital).toArray

/-- The characters with a capital form of several characters. -/
def expansions : List (Nat × List Nat) :=
  (CaseTable.expansion.toList.splitOn ' ').filterMap fun entry =>
    match entry.splitOn ':' with
    | [code, images] => do return (← hexValue? code, ← (images.splitOn '+').mapM hexValue?)
    | _ => none

/-- The image of a code point under the first step that covers it. -/
def shifted (shifts : Array Shift) (code : Nat) : Nat :=
  match shifts.find? fun shift => shift.span.contains code with
  | some shift => (Int.ofNat code + shift.offset).toNat
  | none => code

/-- The code point that stands for all case variants of a code point. -/
def representative (code : Nat) : Nat :=
  shifted representativeShifts code

/-- The code points that the step of a representative moves, with their images. -/
def variantPairs : Array (Nat × Nat) :=
  representativeShifts.foldl (fun pairs shift =>
    (List.range (shift.span.high + 1 - shift.span.low)).foldl (fun pairs distance =>
      if distance % shift.span.step == 0 then
        let code := shift.span.low + distance
        pairs.push ((Int.ofNat code + shift.offset).toNat, code)
      else pairs) pairs) #[]

/-- All case variants of a code point, itself among them. -/
def caseVariants (code : Nat) : List Nat :=
  let image := representative code
  image :: (variantPairs.filter fun pair => pair.1 == image).toList.map (·.2)

/-- The capital form of a character. -/
def capitals (character : Char) : List Char :=
  match expansions.lookup character.toNat with
  | some images => images.map Char.ofNat
  | none => [Char.ofNat (shifted capitalShifts character.toNat)]

/-- A text with every character in its capital form. -/
def toCapitals (text : String) : String :=
  .ofList (text.toList.flatMap capitals)

end Gatehouse.Unicode
