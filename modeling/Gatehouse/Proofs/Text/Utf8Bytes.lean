import Gatehouse.Proofs.Text.Words
import Gatehouse.Text.Utf8

/-!
# The bytes of characters

A text is its characters, and its UTF-8 bytes are those of one character after
the other.  ASCII characters have one byte, which occurs in no other character.
So wherever an ASCII byte stands among the bytes of a text, its character
stands in the text, and cutting the bytes there cuts the text.
-/

namespace Gatehouse.Text

/-- The UTF-8 bytes of characters. -/
def bytesOfChars (characters : List Char) : List UInt8 :=
  characters.flatMap String.utf8EncodeChar

variable {character : Char} {characters before behind : List Char} {bytes front back : List UInt8}

@[simp]
theorem bytesOfChars_nil : bytesOfChars [] = [] := rfl

theorem bytesOfChars_cons (character : Char) (rest : List Char) :
    bytesOfChars (character :: rest) = String.utf8EncodeChar character ++ bytesOfChars rest :=
  List.flatMap_cons

@[simp]
theorem bytesOfChars_append (before behind : List Char) :
    bytesOfChars (before ++ behind) = bytesOfChars before ++ bytesOfChars behind :=
  List.flatMap_append

theorem utf8Encode_eq (characters : List Char) :
    characters.utf8Encode.data.toList = bytesOfChars characters := by
  simp [List.utf8Encode, bytesOfChars]

theorem encode_eq (text : String) : (encode text).data.toList = bytesOfChars text.toList := by
  rw [encode, String.toUTF8, ← String.utf8Encode_toList, utf8Encode_eq]

theorem bytesOfChars_injective (same : bytesOfChars before = bytesOfChars behind) :
    before = behind := by
  rw [← utf8Encode_eq, ← utf8Encode_eq, Array.toList_inj] at same
  have texts : String.ofList before = String.ofList behind := by
    rw [← String.toByteArray_inj, String.toByteArray_ofList, String.toByteArray_ofList]
    exact ByteArray.ext same
  simpa using congrArg String.toList texts

theorem decode?_eq_some_iff {text : String} :
    decode? ⟨bytes.toArray⟩ = some text ↔ bytes = bytesOfChars text.toList := by
  constructor
  · intro read
    unfold decode? String.fromUTF8? at read
    split at read
    · cases read
      rw [← encode_eq]
      rfl
    · cases read
  · rintro rfl
    have same : (⟨(bytesOfChars text.toList).toArray⟩ : ByteArray) = encode text := by
      rw [← encode_eq]
    have valid : (encode text).IsValidUTF8 := text.isValidUTF8
    rw [same, decode?, String.fromUTF8?, dif_pos valid]
    rfl

@[simp]
theorem decode?_encode (text : String) : decode? (encode text) = some text := by
  have read := decode?_eq_some_iff.mpr (encode_eq text)
  exact read

theorem utf8EncodeChar_of_lt (ascii : character.toNat < 128) :
    String.utf8EncodeChar character = [character.toUInt8] := by
  have small : character.utf8Size = 1 := by
    rw [Char.utf8Size_eq_one_iff, UInt32.le_iff_toNat_le]
    exact Nat.le_of_lt_succ ascii
  exact String.utf8EncodeChar_eq_singleton small

theorem bytesOfChars_cons_of_lt (ascii : character.toNat < 128) (rest : List Char) :
    bytesOfChars (character :: rest) = character.toUInt8 :: bytesOfChars rest := by
  rw [bytesOfChars_cons, utf8EncodeChar_of_lt ascii]
  rfl

theorem toNat_toUInt8 (ascii : character.toNat < 128) :
    character.toUInt8.toNat = character.toNat := by
  have small : character.toNat < 256 := by omega
  change character.val.toUInt8.toNat = character.toNat
  rw [UInt32.toNat_toUInt8]
  exact Nat.mod_eq_of_lt small

theorem bytesOfChars_of_forall_lt (ascii : ∀ character ∈ characters, character.toNat < 128) :
    bytesOfChars characters = characters.map Char.toUInt8 := by
  induction characters with
  | nil => rfl
  | cons character rest ih =>
      rw [List.forall_mem_cons] at ascii
      rw [bytesOfChars_cons_of_lt ascii.1, ih ascii.2]
      rfl

theorem toNat_ofNat_toNat (byte : UInt8) : (Char.ofNat byte.toNat).toNat = byte.toNat := by
  have small := byte.toNat_lt
  have valid : byte.toNat.isValidChar := .inl (by omega)
  rw [Char.ofNat, dif_pos valid]
  rfl

/-- The bytes of other characters are no ASCII bytes. -/
theorem le_of_mem_utf8EncodeChar (beyond : 128 ≤ character.toNat) :
    ∀ byte ∈ String.utf8EncodeChar character, 128 ≤ byte.toNat := by
  change 128 ≤ character.val.toNat at beyond
  fun_cases String.utf8EncodeChar character with
  | case1 value small => omega
  | case2 value _ _ => simp; omega
  | case3 value _ _ _ => simp; omega
  | case4 value _ _ _ => simp; omega

/-- An ASCII byte belongs to a character that consists of it. -/
theorem eq_singleton_of_mem_utf8EncodeChar {other : Char} (ascii : character.toNat < 128)
    (mem : character.toUInt8 ∈ String.utf8EncodeChar other) : other = character := by
  by_cases otherAscii : other.toNat < 128
  · rw [utf8EncodeChar_of_lt otherAscii, List.mem_singleton] at mem
    have same := congrArg UInt8.toNat mem
    rw [toNat_toUInt8 ascii, toNat_toUInt8 otherAscii] at same
    exact Char.toNat_inj.mp same.symm
  · have beyond := le_of_mem_utf8EncodeChar (by omega) _ mem
    rw [toNat_toUInt8 ascii] at beyond
    omega

/-- Where the byte of an ASCII character stands, the character stands. -/
theorem exists_of_bytesOfChars_eq (ascii : character.toNat < 128)
    (same : bytesOfChars characters = front ++ character.toUInt8 :: back) :
    ∃ before behind, characters = before ++ character :: behind ∧
      bytesOfChars before = front ∧ bytesOfChars behind = back := by
  induction characters generalizing front with
  | nil => simp at same
  | cons first rest ih =>
      rw [bytesOfChars_cons, List.append_eq_append_iff] at same
      -- The byte stands behind the first character or among its bytes.
      rcases same with ⟨middle, rfl, restEq⟩ | ⟨middle, firstEq, restEq⟩
      · rcases ih restEq with ⟨before, behind, rfl, rfl, rfl⟩
        exact ⟨first :: before, behind, rfl, bytesOfChars_cons first before, rfl⟩
      · cases middle with
        | nil =>
            rcases @ih [] restEq.symm with ⟨before, behind, rfl, beforeEq, rfl⟩
            have beforeNil : before = [] := bytesOfChars_injective beforeEq
            subst beforeNil
            refine ⟨[first], behind, rfl, ?_, rfl⟩
            simpa [bytesOfChars_cons] using firstEq
        | cons byte middle =>
            rw [List.cons_append, List.cons.injEq] at restEq
            rcases restEq with ⟨rfl, rfl⟩
            have whole : first = character :=
              eq_singleton_of_mem_utf8EncodeChar ascii (by rw [firstEq]; simp)
            subst whole
            rw [utf8EncodeChar_of_lt ascii, List.singleton_eq_append_iff] at firstEq
            rcases firstEq with ⟨rfl, tail⟩ | ⟨rfl, tail⟩
            · rw [List.cons.injEq] at tail
              exact ⟨[], rest, rfl, rfl, by rw [tail.2]; rfl⟩
            · cases tail

/-- A text whose bytes start with an ASCII byte starts with its character. -/
theorem exists_of_bytesOfChars_eq_cons (ascii : character.toNat < 128)
    (same : bytesOfChars characters = character.toUInt8 :: back) :
    ∃ behind, characters = character :: behind ∧ bytesOfChars behind = back := by
  rcases @exists_of_bytesOfChars_eq _ _ [] _ ascii same with ⟨before, behind, rfl, nothing, rfl⟩
  have beforeNil : before = [] := bytesOfChars_injective nothing
  subst beforeNil
  exact ⟨behind, rfl, rfl⟩

theorem not_mem_of_mem_splitOn {Symbol : Type} [BEq Symbol] [LawfulBEq Symbol]
    {separator : Symbol} {symbols piece : List Symbol}
    (mem : piece ∈ symbols.splitOn separator) : separator ∉ piece := by
  intro separatorMem
  simpa using (mem_of_mem_splitOnP mem separatorMem).2

theorem flatMap_intercalate {Symbol Spelling : Type} (change : Symbol → List Spelling)
    (separator : List Symbol) (pieces : List (List Symbol)) :
    (separator.intercalate pieces).flatMap change =
      (separator.flatMap change).intercalate (pieces.map fun piece => piece.flatMap change) := by
  induction pieces with
  | nil => simp
  | cons first rest ih =>
      cases rest with
      | nil => simp
      | cons next rest =>
          rw [List.intercalate_cons_cons, List.flatMap_append, List.flatMap_append, ih]
          simp [List.intercalate_cons_cons]

theorem bytesOfChars_intercalate (separator : List Char) (pieces : List (List Char)) :
    bytesOfChars (separator.intercalate pieces) =
      (bytesOfChars separator).intercalate (pieces.map bytesOfChars) :=
  flatMap_intercalate String.utf8EncodeChar separator pieces

theorem splitOn_bytesOfChars (ascii : character.toNat < 128) (characters : List Char) :
    (bytesOfChars characters).splitOn character.toUInt8 =
      (characters.splitOn character).map bytesOfChars := by
  have pieces : ∀ piece ∈ (characters.splitOn character).map bytesOfChars,
      character.toUInt8 ∉ piece := by
    intro piece pieceMem byteMem
    rcases List.mem_map.mp pieceMem with ⟨segment, segmentMem, rfl⟩
    rcases List.mem_flatMap.mp byteMem with ⟨other, otherMem, byteMem⟩
    have same := eq_singleton_of_mem_utf8EncodeChar ascii byteMem
    subst same
    exact not_mem_of_mem_splitOn segmentMem otherMem
  have nonempty : (characters.splitOn character).map bytesOfChars ≠ [] := by
    simp [List.splitOn_ne_nil]
  have separator : bytesOfChars [character] = [character.toUInt8] :=
    bytesOfChars_cons_of_lt ascii []
  rw [← List.splitOn_intercalate character.toUInt8 pieces nonempty, ← separator,
    ← bytesOfChars_intercalate, List.intercalate_splitOn]

end Gatehouse.Text
