import Gatehouse.Percent
import Gatehouse.Proofs.Text.Utf8Bytes

/-!
# Percent-encoded texts

Decoding goes through the bytes of a text and resolves the escapes among them.
A byte that belongs to no escape, such as a slash, is a seam: what stands before
it and what stands behind it are decoded apart.

`StandsFor` relates a written text to the text that its decoded bytes are.  A
written text whose decoded bytes are not UTF-8 stands for nothing.
-/

namespace Gatehouse.Percent

open Text

variable {byte high low first second : UInt8} {bytes rest decoded : List UInt8}

theorem cases_hexDigit? {character : Char} {value : Nat}
    (digit : Unicode.hexDigit? character = some value) :
    0x30 ≤ character.toNat ∧ character.toNat ≤ 0x39 ∧ value = character.toNat - 0x30 ∨
      0x61 ≤ character.toNat ∧ character.toNat ≤ 0x66 ∧ value = character.toNat - 0x61 + 10 ∨
      0x41 ≤ character.toNat ∧ character.toNat ≤ 0x46 ∧ value = character.toNat - 0x41 + 10 := by
  simp only [Unicode.hexDigit?, Char.le_def, UInt32.le_iff_toNat_le] at digit
  split at digit
  case isTrue numeral =>
    cases digit
    exact .inl ⟨numeral.1, numeral.2, rfl⟩
  case isFalse =>
    split at digit
    case isTrue small =>
      cases digit
      exact .inr (.inl ⟨small.1, small.2, rfl⟩)
    case isFalse =>
      split at digit
      case isTrue capital =>
        cases digit
        exact .inr (.inr ⟨capital.1, capital.2, rfl⟩)
      case isFalse => cases digit

theorem cases_hexByte? {value : UInt8} (digit : hexByte? byte = some value) :
    0x30 ≤ byte.toNat ∧ byte.toNat ≤ 0x39 ∧ value.toNat = byte.toNat - 0x30 ∨
      0x61 ≤ byte.toNat ∧ byte.toNat ≤ 0x66 ∧ value.toNat = byte.toNat - 0x61 + 10 ∨
      0x41 ≤ byte.toNat ∧ byte.toNat ≤ 0x46 ∧ value.toNat = byte.toNat - 0x41 + 10 := by
  rw [hexByte?, Option.map_eq_some_iff] at digit
  rcases digit with ⟨number, digit, rfl⟩
  have ranges := cases_hexDigit? digit
  rw [toNat_ofNat_toNat] at ranges
  rw [UInt8.toNat_ofNat']
  omega

theorem hexByte?_toUInt8 {character : Char} (ascii : character.toNat < 128) :
    hexByte? character.toUInt8 = (Unicode.hexDigit? character).map UInt8.ofNat := by
  rw [hexByte?, toNat_toUInt8 ascii, Char.ofNat_toNat]

/-- The byte belongs to no escape. -/
structure IsSeam (byte : UInt8) : Prop where
  ne_percent : byte ≠ 0x25
  hexByte?_eq_none : hexByte? byte = none

theorem isSeam_slash : IsSeam 0x2F :=
  ⟨by decide, by decide⟩

/-- Two hexadecimal digits stand in front. -/
def StartsWithDigits : List UInt8 → Prop
  | high :: low :: _ => (hexByte? high).isSome ∧ (hexByte? low).isSome
  | _ => False

@[simp]
theorem decodeBytes_nil : decodeBytes [] = [] := by
  rw [decodeBytes]

theorem decodeBytes_cons_of_ne (notPercent : byte ≠ 0x25) (rest : List UInt8) :
    decodeBytes (byte :: rest) = byte :: decodeBytes rest := by
  match rest with
  | [] => simp [decodeBytes]
  | [_] => simp [decodeBytes]
  | _ :: _ :: _ => rw [decodeBytes, if_neg notPercent]

theorem decodeBytes_escape (highDigit : hexByte? high = some first)
    (lowDigit : hexByte? low = some second) (rest : List UInt8) :
    decodeBytes (0x25 :: high :: low :: rest) = (first * 16 + second) :: decodeBytes rest := by
  rw [decodeBytes, if_pos rfl, highDigit, lowDigit]

theorem decodeBytes_percent (noEscape : ¬StartsWithDigits rest) :
    decodeBytes (0x25 :: rest) = 0x25 :: decodeBytes rest := by
  match rest with
  | [] => simp [decodeBytes]
  | [_] => simp [decodeBytes]
  | high :: low :: rest =>
      rw [decodeBytes, if_pos rfl]
      split
      · rename_i highDigit lowDigit
        simp [StartsWithDigits, highDigit, lowDigit] at noEscape
      · rfl

/-- What decoding does to the front of its input. -/
theorem cases_decodeBytes (bytes : List UInt8) :
    bytes = [] ∧ decodeBytes bytes = [] ∨
      (∃ byte rest, bytes = byte :: rest ∧ decodeBytes bytes = byte :: decodeBytes rest) ∨
      ∃ high low first second rest, bytes = 0x25 :: high :: low :: rest ∧
        hexByte? high = some first ∧ hexByte? low = some second ∧
        decodeBytes bytes = (first * 16 + second) :: decodeBytes rest := by
  match bytes with
  | [] => exact .inl ⟨rfl, decodeBytes_nil⟩
  | byte :: rest =>
      right
      by_cases percent : byte = 0x25
      · subst percent
        by_cases digits : StartsWithDigits rest
        · match rest with
          | high :: low :: rest =>
              rcases Option.isSome_iff_exists.mp digits.1 with ⟨first, highDigit⟩
              rcases Option.isSome_iff_exists.mp digits.2 with ⟨second, lowDigit⟩
              exact .inr ⟨high, low, first, second, rest, rfl, highDigit, lowDigit,
                decodeBytes_escape highDigit lowDigit rest⟩
        · exact .inl ⟨0x25, rest, rfl, decodeBytes_percent digits⟩
      · exact .inl ⟨byte, rest, rfl, decodeBytes_cons_of_ne percent rest⟩

@[simp]
theorem decodeBytes_eq_nil_iff : decodeBytes bytes = [] ↔ bytes = [] := by
  rcases cases_decodeBytes bytes with ⟨rfl, -⟩ | ⟨byte, rest, rfl, head⟩ |
    ⟨high, low, first, second, rest, rfl, -, -, head⟩
  · simp
  · simp [head]
  · simp [head]

theorem decodeBytes_append_of_not_mem {front : List UInt8} (noPercent : 0x25 ∉ front)
    (back : List UInt8) : decodeBytes (front ++ back) = front ++ decodeBytes back := by
  induction front with
  | nil => rfl
  | cons byte front ih =>
      rw [List.mem_cons, not_or] at noPercent
      rw [List.cons_append, decodeBytes_cons_of_ne (Ne.symm noPercent.1), ih noPercent.2]
      rfl

theorem decodeBytes_append_cons (seam : IsSeam byte) (front back : List UInt8) :
    decodeBytes (front ++ byte :: back) = decodeBytes front ++ byte :: decodeBytes back := by
  fun_induction decodeBytes front with
  | case1 => exact decodeBytes_cons_of_ne seam.ne_percent back
  | case2 high low rest first second lowDigit highDigit ih =>
      simp only [List.cons_append]
      rw [decodeBytes_escape highDigit lowDigit, ih]
  | case3 high low rest noDigits ih =>
      -- Both bytes behind the percent sign stand in front of the seam.
      have noEscape : ¬StartsWithDigits (high :: low :: (rest ++ byte :: back)) := by
        rintro ⟨highDigit, lowDigit⟩
        rcases Option.isSome_iff_exists.mp highDigit with ⟨first, highDigit⟩
        rcases Option.isSome_iff_exists.mp lowDigit with ⟨second, lowDigit⟩
        exact noDigits first second highDigit lowDigit
      simp only [List.cons_append] at ih ⊢
      rw [decodeBytes_percent noEscape, ih]
  | case4 first high low rest notPercent ih =>
      simp only [List.cons_append] at ih ⊢
      rw [decodeBytes_cons_of_ne notPercent, ih]
  | case5 first rest short ih =>
      by_cases percent : first = 0x25
      · -- Fewer than two bytes stand between the percent sign and the seam.
        have noEscape : ¬StartsWithDigits (rest ++ byte :: back) := by
          match rest, short with
          | [], _ =>
              cases back <;> simp [StartsWithDigits, seam.hexByte?_eq_none]
          | [_], _ => simp [StartsWithDigits, seam.hexByte?_eq_none]
          | high :: low :: rest, short => exact absurd rfl (short high low rest)
        rw [percent, List.cons_append, decodeBytes_percent noEscape, ih]
        rfl
      · rw [List.cons_append, decodeBytes_cons_of_ne percent, ih]
        rfl

theorem not_mem_utf8EncodeChar {character : Char} (notPercent : character ≠ '%') :
    0x25 ∉ String.utf8EncodeChar character := by
  have percentAscii : ('%' : Char).toNat < 128 := by decide
  intro percentMem
  exact notPercent (eq_singleton_of_mem_utf8EncodeChar percentAscii percentMem)

variable {written text other before behind : List Char}

/-- A hexadecimal digit in front of the bytes is one in front of the text. -/
theorem exists_of_hexByte? {byte value : UInt8} (digit : hexByte? byte = some value)
    (same : bytesOfChars written = byte :: bytes) :
    ∃ first rest, written = first :: rest ∧ bytesOfChars rest = bytes ∧
      first.toNat < 128 ∧ first.toUInt8 = byte := by
  have ranges := cases_hexByte? digit
  have code := toNat_ofNat_toNat byte
  have ascii : (Char.ofNat byte.toNat).toNat < 128 := by omega
  have own : (Char.ofNat byte.toNat).toUInt8 = byte := by
    rw [← UInt8.toNat_inj, toNat_toUInt8 ascii, code]
  rw [← own] at same
  rcases exists_of_bytesOfChars_eq_cons ascii same with ⟨rest, writtenEq, restEq⟩
  exact ⟨_, rest, writtenEq, restEq, ascii, own⟩

/-- Digits of an escape are written that are kept. -/
theorem exists_of_startsWithDigits (digits : StartsWithDigits (bytesOfChars written)) :
    ∃ high low first second rest, written = high :: low :: rest ∧
      hexByte? high.toUInt8 = some first ∧ hexByte? low.toUInt8 = some second ∧
      high.toNat < 128 ∧ low.toNat < 128 := by
  match same : bytesOfChars written with
  | [] => simp [same, StartsWithDigits] at digits
  | [_] => simp [same, StartsWithDigits] at digits
  | highByte :: lowByte :: bytes =>
      rw [same] at digits
      rcases Option.isSome_iff_exists.mp digits.1 with ⟨first, highDigit⟩
      rcases Option.isSome_iff_exists.mp digits.2 with ⟨second, lowDigit⟩
      rcases exists_of_hexByte? highDigit same with ⟨high, rest, rfl, restEq, highAscii, rfl⟩
      rcases exists_of_hexByte? lowDigit restEq with ⟨low, rest, rfl, -, lowAscii, rfl⟩
      exact ⟨high, low, first, second, rest, rfl, highDigit, lowDigit, highAscii, lowAscii⟩

/-- The decoded bytes of a written text are those of a text. -/
def StandsFor (written text : List Char) : Prop :=
  decodeBytes (bytesOfChars written) = bytesOfChars text

instance (written text : List Char) : Decidable (StandsFor written text) :=
  inferInstanceAs (Decidable (_ = _))

theorem StandsFor.unique (stands : StandsFor written text) (also : StandsFor written other) :
    text = other :=
  bytesOfChars_injective (stands.symm.trans also)

theorem standsFor_nil : StandsFor [] [] :=
  decodeBytes_nil

theorem StandsFor.eq_nil (stands : StandsFor written []) : written = [] := by
  have noBytes : bytesOfChars written = bytesOfChars [] := by
    simpa [StandsFor] using stands
  exact bytesOfChars_injective noBytes

theorem bytes_eq (path : String) : Percent.bytes path = decodeBytes (bytesOfChars path.toList) := by
  rw [← encode_eq path]
  rfl

theorem decode?_eq_some_iff {path content : String} :
    decode? path = some content ↔ StandsFor path.toList content.toList := by
  rw [decode?, Text.decode?_eq_some_iff, bytes_eq, StandsFor]

/-- A slash cuts what is written and the text that it stands for. -/
theorem standsFor_append_cons_iff :
    StandsFor (before ++ '/' :: behind) text ↔
      ∃ front back, text = front ++ '/' :: back ∧
        StandsFor before front ∧ StandsFor behind back := by
  have ascii : ('/' : Char).toNat < 128 := by decide
  have cut : decodeBytes (bytesOfChars (before ++ '/' :: behind)) =
      decodeBytes (bytesOfChars before) ++ 0x2F :: decodeBytes (bytesOfChars behind) := by
    rw [bytesOfChars_append, bytesOfChars_cons_of_lt ascii]
    exact decodeBytes_append_cons isSeam_slash _ _
  constructor
  · intro stands
    rw [StandsFor, cut] at stands
    rcases exists_of_bytesOfChars_eq ascii stands.symm with
      ⟨front, back, rfl, frontEq, backEq⟩
    exact ⟨front, back, rfl, frontEq.symm, backEq.symm⟩
  · rintro ⟨front, back, rfl, standsBefore, standsBehind⟩
    rw [StandsFor, cut, bytesOfChars_append, bytesOfChars_cons_of_lt ascii, standsBefore,
      standsBehind]
    rfl

end Gatehouse.Percent
