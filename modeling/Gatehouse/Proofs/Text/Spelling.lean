import Gatehouse.Proofs.Text.Escapes

/-!
# What written characters spell

Decoding works on bytes.  `Spells` says on characters what comes out: a percent
sign with two hexadecimal digits behind it spells one byte, and every other
character spells its own bytes.  A percent sign whose digits are cut off, or are
no digits, is such a character, so every text spells something and nothing that is
written is an error.  Only the bytes may fail to be a text.
-/

namespace Gatehouse.Percent

open Text

variable {written : List Char} {bytes : List UInt8}

/-- Two hexadecimal digits stand in front of the characters. -/
def StartsWithHex : List Char → Prop
  | high :: low :: _ => (Unicode.hexDigit? high).isSome ∧ (Unicode.hexDigit? low).isSome
  | _ => False

instance : DecidablePred StartsWithHex := fun characters =>
  match characters with
  | [] => inferInstanceAs (Decidable False)
  | [_] => inferInstanceAs (Decidable False)
  | _ :: _ :: _ => inferInstanceAs (Decidable (_ ∧ _))

/-- The characters spell the bytes. -/
inductive Spells : List Char → List UInt8 → Prop
  | nothing : Spells [] []
  | escape {high low : Char} {first second : Nat} {rest : List Char} {bytes : List UInt8}
      (highDigit : Unicode.hexDigit? high = some first)
      (lowDigit : Unicode.hexDigit? low = some second) (behind : Spells rest bytes) :
      Spells ('%' :: high :: low :: rest) (UInt8.ofNat (first * 16 + second) :: bytes)
  | plain {character : Char} {rest : List Char} {bytes : List UInt8}
      (noEscape : character = '%' → ¬StartsWithHex rest) (behind : Spells rest bytes) :
      Spells (character :: rest) (String.utf8EncodeChar character ++ bytes)

theorem lt_of_hexDigit? {character : Char} {value : Nat}
    (digit : Unicode.hexDigit? character = some value) : character.toNat < 128 := by
  have ranges := cases_hexDigit? digit
  omega

theorem startsWithHex_of_startsWithDigits (digits : StartsWithDigits (bytesOfChars written)) :
    StartsWithHex written := by
  rcases exists_of_startsWithDigits digits with
    ⟨high, low, first, second, rest, rfl, highDigit, lowDigit, highAscii, lowAscii⟩
  rw [hexByte?_toUInt8 highAscii, Option.map_eq_some_iff] at highDigit
  rw [hexByte?_toUInt8 lowAscii, Option.map_eq_some_iff] at lowDigit
  rcases highDigit with ⟨_, highDigit, -⟩
  rcases lowDigit with ⟨_, lowDigit, -⟩
  simp [StartsWithHex, highDigit, lowDigit]

theorem Spells.decodeBytes_eq (spells : Spells written bytes) :
    decodeBytes (bytesOfChars written) = bytes := by
  have percentAscii : ('%' : Char).toNat < 128 := by decide
  induction spells with
  | nothing => exact decodeBytes_nil
  | @escape high low first second rest bytes highDigit lowDigit behind ih =>
      have highAscii := lt_of_hexDigit? highDigit
      have lowAscii := lt_of_hexDigit? lowDigit
      have highByte : hexByte? high.toUInt8 = some (UInt8.ofNat first) := by
        simp [hexByte?_toUInt8 highAscii, highDigit]
      have lowByte : hexByte? low.toUInt8 = some (UInt8.ofNat second) := by
        simp [hexByte?_toUInt8 lowAscii, lowDigit]
      have value : UInt8.ofNat first * 16 + UInt8.ofNat second =
          UInt8.ofNat (first * 16 + second) := by
        simp
      rw [bytesOfChars_cons_of_lt percentAscii, bytesOfChars_cons_of_lt highAscii,
        bytesOfChars_cons_of_lt lowAscii, ← value, ← ih]
      exact decodeBytes_escape highByte lowByte _
  | @plain character rest bytes noEscape behind ih =>
      by_cases percent : character = '%'
      · subst percent
        have noDigits := mt startsWithHex_of_startsWithDigits (noEscape rfl)
        rw [bytesOfChars_cons_of_lt percentAscii, utf8EncodeChar_of_lt percentAscii, ← ih]
        exact decodeBytes_percent noDigits
      · rw [bytesOfChars_cons, decodeBytes_append_of_not_mem (not_mem_utf8EncodeChar percent), ih]

/-- Every text spells some bytes. -/
theorem exists_spells (written : List Char) : ∃ bytes, Spells written bytes := by
  -- An escape takes three characters, so the induction is on the length.
  induction length : written.length using Nat.strongRecOn generalizing written with
  | ind length ih =>
    subst length
    match written with
    | [] => exact ⟨[], .nothing⟩
    | character :: rest =>
        by_cases escaped : character = '%' ∧ StartsWithHex rest
        · rcases escaped with ⟨rfl, digits⟩
          match rest with
          | high :: low :: rest =>
              rcases Option.isSome_iff_exists.mp digits.1 with ⟨first, highDigit⟩
              rcases Option.isSome_iff_exists.mp digits.2 with ⟨second, lowDigit⟩
              rcases ih rest.length (by simp; omega) rest rfl with ⟨bytes, behind⟩
              exact ⟨_, .escape highDigit lowDigit behind⟩
        · rcases ih rest.length (by simp) rest rfl with ⟨bytes, behind⟩
          exact ⟨_, .plain (not_and.mp escaped) behind⟩

/-- The bytes that are decoded are those that the characters spell. -/
theorem spells_iff : Spells written bytes ↔ decodeBytes (bytesOfChars written) = bytes := by
  constructor
  · intro spells
    exact spells.decodeBytes_eq
  · rintro rfl
    rcases exists_spells written with ⟨bytes, spells⟩
    rw [spells.decodeBytes_eq]
    exact spells

theorem standsFor_iff_spells {text : List Char} :
    StandsFor written text ↔ Spells written (bytesOfChars text) :=
  spells_iff.symm

end Gatehouse.Percent
