/-!
# Decimal integers

Whole numbers written with ASCII digits.  A number may carry a sign; an
unsigned one may carry a plus.  A number outside the range that is asked for
is no number at all.
-/

namespace Gatehouse.Text

def digit? (character : Char) : Option Nat :=
  if '0' ≤ character ∧ character ≤ '9' then some (character.toNat - '0'.toNat) else none

/-- The value of a non-empty run of digits. -/
def natural? : List Char → Option Nat
  | [] => none
  | digits => digits.foldlM (fun value character => (value * 10 + ·) <$> digit? character) 0

/-- The value of a run of digits with an optional sign. -/
def signed? : List Char → Option Int
  | '-' :: digits => (natural? digits).map fun magnitude => -(magnitude : Int)
  | '+' :: digits => (natural? digits).map Int.ofNat
  | digits => (natural? digits).map Int.ofNat

/-- The value of a run of digits with an optional plus. -/
def unsigned? : List Char → Option Nat
  | '+' :: digits => natural? digits
  | digits => natural? digits

/-- An integer of the range that fits 64 bits with a sign. -/
def int64? (text : String) : Option Int :=
  (signed? text.toList).filter fun value => -Int.pow 2 63 ≤ value && value < Int.pow 2 63

/-- A natural number below a limit. -/
def naturalBelow? (limit : Nat) (text : String) : Option Nat :=
  (unsigned? text.toList).filter (· < limit)

/-- A number in decimal with zeros in front up to a width. -/
def padded (width value : Nat) : String :=
  let digits := (Nat.toDigits 10 value)
  .ofList (List.replicate (width - digits.length) '0' ++ digits)

end Gatehouse.Text
