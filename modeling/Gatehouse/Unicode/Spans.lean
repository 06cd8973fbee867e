/-!
# Sets of code points as spans

A property of characters is a set of code points, kept as an ordered array of
spans and looked up by halving.  `Spans.ofText` reads the written form: blank
separated entries `low`, `low-high` or `low-high/step`, in hexadecimal.
-/

namespace Gatehouse.Unicode

/-- A run of code points, every one of them or every `step`-th. -/
structure Span where
  low : Nat
  high : Nat
  step : Nat
  deriving Repr, DecidableEq

namespace Span

def contains (span : Span) (code : Nat) : Bool :=
  span.low ≤ code && code ≤ span.high && (code - span.low) % span.step == 0

end Span

/-- The value of a hexadecimal digit. -/
def hexDigit? (character : Char) : Option Nat :=
  if '0' ≤ character ∧ character ≤ '9' then some (character.toNat - '0'.toNat)
  else if 'a' ≤ character ∧ character ≤ 'f' then some (character.toNat - 'a'.toNat + 10)
  else if 'A' ≤ character ∧ character ≤ 'F' then some (character.toNat - 'A'.toNat + 10)
  else none

/-- The value of a run of hexadecimal digits; the empty run is zero. -/
def hexValue? (digits : List Char) : Option Nat :=
  digits.foldlM (fun value character => (value * 16 + ·) <$> hexDigit? character) 0

/-- Reads one entry `low`, `low-high` or `low-high/step`. -/
def Span.ofEntry? (entry : List Char) : Option Span := do
  let (range, step) ← match entry.splitOn '/' with
    | [range] => some (range, 1)
    | [range, step] => (hexValue? step).map (range, ·)
    | _ => none
  match range.splitOn '-' with
  | [low] => (hexValue? low).map fun low => ⟨low, low, step⟩
  | [low, high] => do return ⟨← hexValue? low, ← hexValue? high, step⟩
  | _ => none

/-- An ordered array of spans that do not overlap. -/
abbrev Spans := Array Span

namespace Spans

/-- Reads the written form of a table. -/
def ofText (text : String) : Spans :=
  ((text.toList.splitOn ' ').filterMap Span.ofEntry?).toArray

/-- Looks for a code point among the spans from `low` on and below `high`. -/
def search (spans : Spans) (code low high : Nat) : Bool :=
  if _h : low < high then
    let middle := (low + high) / 2
    match spans[middle]? with
    | none => false
    | some span =>
        if code < span.low then search spans code low middle
        else if span.high < code then search spans code (middle + 1) high
        else span.contains code
  else false
termination_by high - low

def contains (spans : Spans) (code : Nat) : Bool :=
  spans.search code 0 spans.size

end Spans

end Gatehouse.Unicode
