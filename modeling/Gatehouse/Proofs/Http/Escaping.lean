import Gatehouse.Http.Url
import Gatehouse.Proofs.Text.Escapes

/-!
# What a client does to the characters of a path

A client spells some characters of a path by escapes and keeps all others, among
them the percent sign, the hexadecimal digits and the slash.  So every escape that
was there stays one, no new one comes about by accident, and the decoded bytes are
the same.

A client knows the segments `.` and `..` also by escapes.  These are exactly the
segments whose decoded bytes are one dot or two.
-/

namespace Gatehouse.Http.Url

open Text Percent

variable {character : Char} {characters rest text segment : List Char} {bytes : List UInt8}

theorem hexDigit?_hexDigit :
    ∀ value < 16, Unicode.hexDigit? (hexDigit value) = some value ∧
      (hexDigit value).toNat < 128 := by
  decide

theorem decodeBytes_escapeByte (byte : UInt8) (bytes : List UInt8) :
    decodeBytes (bytesOfChars (escapeByte byte) ++ bytes) = byte :: decodeBytes bytes := by
  have small := byte.toNat_lt
  rcases hexDigit?_hexDigit (byte.toNat / 16) (by omega) with ⟨highDigit, highAscii⟩
  rcases hexDigit?_hexDigit (byte.toNat % 16) (by omega) with ⟨lowDigit, lowAscii⟩
  have high : hexByte? (hexDigit (byte.toNat / 16)).toUInt8 =
      some (UInt8.ofNat (byte.toNat / 16)) := by
    rw [hexByte?_toUInt8 highAscii, highDigit]
    rfl
  have low : hexByte? (hexDigit (byte.toNat % 16)).toUInt8 =
      some (UInt8.ofNat (byte.toNat % 16)) := by
    rw [hexByte?_toUInt8 lowAscii, lowDigit]
    rfl
  have value : UInt8.ofNat (byte.toNat / 16) * 16 + UInt8.ofNat (byte.toNat % 16) = byte := by
    rw [← UInt8.toNat_inj, UInt8.toNat_add, UInt8.toNat_mul, UInt8.toNat_ofNat', UInt8.toNat_ofNat']
    simp only [UInt8.reduceToNat]
    omega
  have percent : ('%' : Char).toNat < 128 := by decide
  rw [escapeByte, bytesOfChars_cons_of_lt percent, bytesOfChars_cons_of_lt highAscii,
    bytesOfChars_cons_of_lt lowAscii]
  exact (decodeBytes_escape high low bytes).trans (by rw [value])

theorem decodeBytes_flatMap_escapeByte (escaped bytes : List UInt8) :
    decodeBytes (bytesOfChars (escaped.flatMap escapeByte) ++ bytes) =
      escaped ++ decodeBytes bytes := by
  induction escaped with
  | nil => rfl
  | cons byte escaped ih =>
      rw [List.flatMap_cons, bytesOfChars_append, List.append_assoc, decodeBytes_escapeByte, ih]
      rfl

theorem cases_escapedInPath (escaped : escapedInPath character) :
    character.toNat < 0x20 ∨ 0x7E < character.toNat ∨
      character.toNat ∈ [0x20, 0x22, 0x23, 0x3C, 0x3E, 0x3F, 0x5E, 0x60, 0x7B, 0x7D] := by
  simp only [escapedInPath, isUnprintable, Bool.or_eq_true, decide_eq_true_eq] at escaped
  rcases escaped with (control | beyond) | listed
  · exact .inl control
  · exact .inr (.inl beyond)
  · rw [List.contains_iff_mem] at listed
    exact .inr (.inr (List.mem_map_of_mem (f := Char.toNat) listed))

theorem not_escapedInPath_of_hexByte? {value : UInt8} (ascii : character.toNat < 128)
    (digit : hexByte? character.toUInt8 = some value) : ¬escapedInPath character := by
  intro escaped
  have ranges := cases_hexByte? digit
  rw [toNat_toUInt8 ascii] at ranges
  rcases cases_escapedInPath escaped with control | beyond | listed
  · omega
  · omega
  · simp only [List.mem_cons, List.not_mem_nil, or_false] at listed
    omega

theorem escapeChar_of_escaped (escaped : escapedInPath character) :
    escapeChar escapedInPath character = (String.utf8EncodeChar character).flatMap escapeByte := by
  have own : (encode character.toString).data.toList = String.utf8EncodeChar character := by
    rw [encode_eq]
    simp [bytesOfChars]
  rw [escapeChar, if_pos escaped, own]

theorem escapeChar_of_kept (kept : ¬escapedInPath character) :
    escapeChar escapedInPath character = [character] := by
  rw [escapeChar, if_neg kept]

/-- A digit in front after escaping was there before. -/
theorem exists_of_flatMap_escapeChar_eq_cons {first : Char} {behind : List Char} {value : UInt8}
    (digit : hexByte? first.toUInt8 = some value)
    (same : characters.flatMap (escapeChar escapedInPath) = first :: behind) :
    ∃ rest, characters = first :: rest ∧ rest.flatMap (escapeChar escapedInPath) = behind := by
  cases characters with
  | nil => cases same
  | cons character rest =>
      rw [List.flatMap_cons] at same
      by_cases escaped : escapedInPath character
      · have noDigit : hexByte? ('%' : Char).toUInt8 = none := by decide
        rcases List.exists_cons_of_ne_nil (@String.utf8EncodeChar_ne_nil character) with
          ⟨byte, bytes, encoded⟩
        rw [escapeChar_of_escaped escaped, encoded, List.flatMap_cons, escapeByte,
          List.append_assoc, List.cons_append, List.cons.injEq] at same
        rw [← same.1, noDigit] at digit
        cases digit
      · rw [escapeChar_of_kept escaped, List.singleton_append, List.cons.injEq] at same
        exact ⟨rest, by rw [same.1], same.2⟩

theorem startsWithDigits_of_flatMap_escapeChar
    (digits : StartsWithDigits (bytesOfChars (characters.flatMap (escapeChar escapedInPath)))) :
    StartsWithDigits (bytesOfChars characters) := by
  rcases exists_of_startsWithDigits digits with
    ⟨high, low, first, second, behind, same, highDigit, lowDigit, highAscii, lowAscii⟩
  rcases exists_of_flatMap_escapeChar_eq_cons highDigit same with ⟨rest, rfl, tail⟩
  rcases exists_of_flatMap_escapeChar_eq_cons lowDigit tail with ⟨rest, rfl, -⟩
  rw [bytesOfChars_cons_of_lt highAscii, bytesOfChars_cons_of_lt lowAscii]
  exact ⟨by rw [highDigit]; rfl, by rw [lowDigit]; rfl⟩

/-- A character that starts no escape is decoded apart, escaped or not. -/
theorem decodeBytes_escapeChar_append (notPercent : character ≠ '%') (bytes : List UInt8) :
    decodeBytes (bytesOfChars (escapeChar escapedInPath character) ++ bytes) =
      String.utf8EncodeChar character ++ decodeBytes bytes := by
  by_cases escaped : escapedInPath character
  · rw [escapeChar_of_escaped escaped, decodeBytes_flatMap_escapeByte]
  · rw [escapeChar_of_kept escaped, bytesOfChars_cons, bytesOfChars_nil, List.append_nil,
      decodeBytes_append_of_not_mem (not_mem_utf8EncodeChar notPercent)]

theorem decodeBytes_flatMap_escapeChar (characters : List Char) :
    decodeBytes (bytesOfChars (characters.flatMap (escapeChar escapedInPath))) =
      decodeBytes (bytesOfChars characters) := by
  have percentAscii : ('%' : Char).toNat < 128 := by decide
  have percentKept : ¬escapedInPath '%' := by decide
  -- An escape takes three characters, so the induction is on the length.
  induction length : characters.length using Nat.strongRecOn generalizing characters with
  | ind length ih =>
    subst length
    match characters with
    | [] => rfl
    | character :: rest =>
        have tail := ih rest.length (by simp) rest rfl
        rw [List.flatMap_cons]
        by_cases percent : character = '%'
        · subst percent
          rw [escapeChar_of_kept percentKept, List.singleton_append,
            bytesOfChars_cons_of_lt percentAscii, bytesOfChars_cons_of_lt percentAscii]
          by_cases digits : StartsWithDigits (bytesOfChars rest)
          · rcases exists_of_startsWithDigits digits with
              ⟨high, low, first, second, rest, rfl, highDigit, lowDigit, highAscii, lowAscii⟩
            have tail := ih rest.length (by simp; omega) rest rfl
            rw [List.flatMap_cons, List.flatMap_cons,
              escapeChar_of_kept (not_escapedInPath_of_hexByte? highAscii highDigit),
              escapeChar_of_kept (not_escapedInPath_of_hexByte? lowAscii lowDigit),
              List.singleton_append, List.singleton_append,
              bytesOfChars_cons_of_lt highAscii, bytesOfChars_cons_of_lt lowAscii,
              bytesOfChars_cons_of_lt highAscii, bytesOfChars_cons_of_lt lowAscii]
            exact (decodeBytes_escape highDigit lowDigit _).trans
              ((congrArg _ tail).trans (decodeBytes_escape highDigit lowDigit _).symm)
          · have noDigits := mt startsWithDigits_of_flatMap_escapeChar digits
            exact (decodeBytes_percent noDigits).trans
              ((congrArg _ tail).trans (decodeBytes_percent digits).symm)
        · rw [bytesOfChars_append, decodeBytes_escapeChar_append percent, tail, bytesOfChars_cons,
            decodeBytes_append_of_not_mem (not_mem_utf8EncodeChar percent)]

theorem standsFor_flatMap_escapeChar_iff :
    StandsFor (characters.flatMap (escapeChar escapedInPath)) text ↔ StandsFor characters text := by
  rw [StandsFor, StandsFor, decodeBytes_flatMap_escapeChar]

theorem cases_toLower (character : Char) :
    0x41 ≤ character.toNat ∧ character.toNat ≤ 0x5A ∧
      character.toLower.toNat = character.toNat + 0x20 ∨ character.toLower = character := by
  unfold Char.toLower
  split
  case isTrue capital =>
    left
    have lower := UInt32.le_iff_toNat_le.mp capital.1
    have upper := UInt32.le_iff_toNat_le.mp capital.2
    change 0x41 ≤ character.val.toNat at lower
    change character.val.toNat ≤ 0x5A at upper
    refine ⟨lower, upper, ?_⟩
    change (character.val + _).toNat = character.val.toNat + 0x20
    rw [UInt32.toNat_add]
    change (character.val.toNat + 0x20) % 2 ^ 32 = _
    omega
  case isFalse => exact .inr rfl

theorem eq_of_toLower_eq {other : Char} (same : character.toLower = other)
    (noLetter : other.toNat < 0x61) : character = other := by
  rcases cases_toLower character with ⟨lower, -, code⟩ | kept
  · rw [same] at code
    omega
  · rw [← kept, same]

theorem isHere_iff : isHere segment ↔ segment ∈ [['.'], ['%', '2', 'e'], ['%', '2', 'E']] := by
  constructor
  · intro here
    have spellings : dotSpellings = [['.'], ['%', '2', 'e']] := by decide
    rw [isHere, spellings, List.contains_iff_mem, List.mem_cons, List.mem_singleton,
      asciiLowerChars] at here
    rcases here with dot | escape
    · rcases List.map_eq_singleton_iff.mp dot with ⟨character, rfl, same⟩
      have characterEq := eq_of_toLower_eq same (by decide)
      simp [characterEq]
    · rcases List.map_eq_cons_iff.mp escape with ⟨percent, rest, rfl, percentEq, escape⟩
      rcases List.map_eq_cons_iff.mp escape with ⟨two, rest, rfl, twoEq, escape⟩
      rcases List.map_eq_singleton_iff.mp escape with ⟨letter, rfl, letterEq⟩
      rw [eq_of_toLower_eq percentEq (by decide), eq_of_toLower_eq twoEq (by decide)]
      rcases cases_toLower letter with ⟨-, -, code⟩ | kept
      · rw [letterEq] at code
        have capital : letter.toNat = ('E' : Char).toNat := Nat.add_right_cancel code.symm
        simp [Char.toNat_inj.mp capital]
      · rw [← kept, letterEq]
        simp
  · intro spelling
    revert segment
    decide

/-- What is written starts with a spelling of a dot where its text starts with a dot. -/
theorem exists_isHere_of_standsFor (stands : StandsFor segment ('.' :: text)) :
    ∃ front back, segment = front ++ back ∧ isHere front ∧ StandsFor back text := by
  have dotAscii : ('.' : Char).toNat < 128 := by decide
  have percentAscii : ('%' : Char).toNat < 128 := by decide
  have two : ('2' : Char).toNat = 0x32 := by decide
  have small : ('e' : Char).toNat = 0x65 := by decide
  have capital : ('E' : Char).toNat = 0x45 := by decide
  rw [StandsFor, bytesOfChars_cons_of_lt dotAscii] at stands
  rcases cases_decodeBytes (bytesOfChars segment) with ⟨-, nothing⟩ |
    ⟨byte, bytes, segmentBytes, decoded⟩ |
    ⟨high, low, first, second, bytes, segmentBytes, highDigit, lowDigit, decoded⟩
  · rw [nothing] at stands
    cases stands
  · rw [decoded, List.cons.injEq] at stands
    rcases stands with ⟨rfl, stands⟩
    rcases exists_of_bytesOfChars_eq_cons dotAscii segmentBytes with ⟨back, rfl, rfl⟩
    exact ⟨['.'], back, rfl, by decide, stands⟩
  · rw [decoded, List.cons.injEq] at stands
    rcases stands with ⟨value, stands⟩
    -- Of all escapes of two digits only `2e` and `2E` give a dot.
    have highRanges := cases_hexByte? highDigit
    have lowRanges := cases_hexByte? lowDigit
    have dot : ('.' : Char).toUInt8.toNat = 0x2E := by decide
    have value := congrArg UInt8.toNat value
    rw [UInt8.toNat_add, UInt8.toNat_mul, dot] at value
    simp only [UInt8.reduceToNat] at value
    rcases exists_of_bytesOfChars_eq_cons percentAscii segmentBytes with ⟨rest, rfl, restBytes⟩
    rcases exists_of_hexByte? highDigit restBytes with
      ⟨first, rest, rfl, lowBytes, firstAscii, rfl⟩
    rcases exists_of_hexByte? lowDigit lowBytes with ⟨second, back, rfl, rfl, secondAscii, rfl⟩
    rw [toNat_toUInt8 firstAscii] at highRanges
    rw [toNat_toUInt8 secondAscii] at lowRanges
    refine ⟨['%', first, second], back, rfl, ?_, stands⟩
    have firstEq : first = '2' := by
      rw [← Char.toNat_inj, two]
      omega
    have secondEq : second = 'e' ∨ second = 'E' := by
      rw [← Char.toNat_inj, ← Char.toNat_inj, small, capital]
      omega
    rw [isHere_iff]
    rcases secondEq with rfl | rfl
    · simp [firstEq]
    · simp [firstEq]

theorem standsFor_append_of_isHere (here : isHere segment) (stands : StandsFor rest text) :
    StandsFor (segment ++ rest) ('.' :: text) := by
  have decoded : decodeBytes (bytesOfChars (segment ++ rest)) =
      0x2E :: decodeBytes (bytesOfChars rest) := by
    rw [bytesOfChars_append]
    rw [isHere_iff] at here
    simp only [List.mem_cons, List.not_mem_nil, or_false] at here
    have two : hexByte? 0x32 = some 2 := by decide
    have small : hexByte? 0x65 = some 14 := by decide
    have capital : hexByte? 0x45 = some 14 := by decide
    rcases here with rfl | rfl | rfl
    · exact decodeBytes_cons_of_ne (by decide) _
    · exact decodeBytes_escape two small _
    · exact decodeBytes_escape two capital _
  have dotAscii : ('.' : Char).toNat < 128 := by decide
  rw [StandsFor, decoded, stands]
  exact (bytesOfChars_cons_of_lt dotAscii text).symm

theorem isHere_iff_standsFor : isHere segment ↔ StandsFor segment ['.'] := by
  constructor
  · intro here
    have stands := standsFor_append_of_isHere here standsFor_nil
    rwa [List.append_nil] at stands
  · intro stands
    rcases exists_isHere_of_standsFor stands with ⟨front, back, rfl, here, stands⟩
    rw [stands.eq_nil, List.append_nil]
    exact here

theorem isAbove_iff_standsFor : isAbove segment ↔ StandsFor segment ['.', '.'] := by
  simp only [isAbove, List.any_eq_true, beq_iff_eq]
  constructor
  · rintro ⟨first, firstMem, second, secondMem, same⟩
    rcases List.map_eq_append_iff.mp same.symm with ⟨front, back, rfl, rfl, rfl⟩
    apply standsFor_append_of_isHere (List.contains_iff_mem.mpr firstMem)
    exact isHere_iff_standsFor.mp (List.contains_iff_mem.mpr secondMem)
  · intro stands
    rcases exists_isHere_of_standsFor stands with ⟨front, back, rfl, frontHere, stands⟩
    have backHere := isHere_iff_standsFor.mpr stands
    refine ⟨_, List.contains_iff_mem.mp frontHere, _, List.contains_iff_mem.mp backHere, ?_⟩
    exact List.map_append.symm

end Gatehouse.Http.Url
