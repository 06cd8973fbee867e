import Gatehouse.Http.Headers
import Gatehouse.Proofs.Text.Utf8Bytes

/-!
# Texts in headers

The texts that can be read from a header are the printable ones, and each of
them can be set as a header and is read back as it was.  A header may be set to
other texts too, as long as they hold no control character but tabs, but then it
cannot be read.

What is blank in a printable text are its spaces and tabs, so a value may be trimmed
before it is read.
-/

namespace Gatehouse.Http

/-- A character that header text is read from: visible ASCII, a space or a tab. -/
def IsReadable (character : Char) : Prop :=
  character.toNat = 9 ∨ 32 ≤ character.toNat ∧ character.toNat < 127

/-- A text of characters that header text is read from. -/
def IsPrintable (text : String) : Prop :=
  ∀ character ∈ text.toList, IsReadable character

instance : DecidablePred IsReadable :=
  fun _ => inferInstanceAs (Decidable (_ ∨ _ ∧ _))

/-- Texts are checked for printable characters one character after the other. -/
theorem printable_of_all {text : String}
    (all : text.toList.all fun character => decide (IsReadable character)) :
    IsPrintable text := by
  simpa [IsPrintable] using all

theorem IsReadable.lt {character : Char} (readable : IsReadable character) :
    character.toNat < 128 := by
  rcases readable with tab | ⟨-, below⟩
  · omega
  · omega

namespace HeaderValue

variable {text : String} {value : HeaderValue} {character : Char}

theorem ofText_eq_map (printable : IsPrintable text) :
    ofText text = text.toList.map Char.toUInt8 := by
  rw [ofText, Text.encode_eq]
  exact Text.bytesOfChars_of_forall_lt fun character characterMem =>
    (printable character characterMem).lt

theorem ofText_injective {other : String} (same : ofText text = ofText other) : text = other := by
  rw [ofText, ofText, Text.encode_eq, Text.encode_eq] at same
  exact String.toList_inj.mp (Text.bytesOfChars_injective same)

theorem isReadableByte_iff {byte : UInt8} :
    isReadableByte byte ↔ byte.toNat = 9 ∨ 32 ≤ byte.toNat ∧ byte.toNat < 127 := by
  simp [isReadableByte, UInt8.le_iff_toNat_le, UInt8.lt_iff_toNat_lt, ← UInt8.toNat_inj]

theorem isReadableByte_toUInt8 (readable : IsReadable character) :
    isReadableByte character.toUInt8 := by
  rw [isReadableByte_iff, Text.toNat_toUInt8 readable.lt]
  exact readable

theorem isSettableByte_of_readable {byte : UInt8} (readable : isReadableByte byte) :
    isSettableByte byte := by
  simp only [isReadableByte, isSettableByte, Bool.or_eq_true, Bool.and_eq_true,
    decide_eq_true_eq] at readable ⊢
  exact readable.imp_right fun ⟨least, below⟩ => ⟨least, UInt8.ne_of_lt below⟩

theorem all_readable (printable : IsPrintable text) :
    ∀ byte ∈ ofText text, isReadableByte byte := by
  rw [ofText_eq_map printable]
  intro byte byteMem
  rcases List.mem_map.mp byteMem with ⟨character, characterMem, rfl⟩
  exact isReadableByte_toUInt8 (printable character characterMem)

theorem text?_ofText (printable : IsPrintable text) : text? (ofText text) = some text := by
  have characters : (ofText text).map (fun byte => Char.ofNat byte.toNat) = text.toList := by
    rw [ofText_eq_map printable, List.map_map]
    refine (List.map_congr_left ?_).trans (List.map_id _)
    intro character characterMem
    rw [Function.comp, Text.toNat_toUInt8 (printable character characterMem).lt, Char.ofNat_toNat]
    rfl
  rw [text?, if_pos (List.all_eq_true.mpr (all_readable printable)), characters,
    String.ofList_toList]

theorem ofText?_of_printable (printable : IsPrintable text) :
    ofText? text = some (ofText text) := by
  apply if_pos
  exact List.all_eq_true.mpr fun byte byteMem =>
    isSettableByte_of_readable (all_readable printable byte byteMem)

theorem text?_eq_some_iff :
    text? value = some text ↔ (∀ byte ∈ value, isReadableByte byte) ∧
      text = .ofList (value.map fun byte => Char.ofNat byte.toNat) := by
  rw [text?, Option.ite_none_right_eq_some, List.all_eq_true, Option.some.injEq,
    eq_comm (a := text)]

theorem printable_of_text? (read : text? value = some text) : IsPrintable text := by
  rcases text?_eq_some_iff.mp read with ⟨readable, rfl⟩
  intro character characterMem
  rw [String.toList_ofList] at characterMem
  rcases List.mem_map.mp characterMem with ⟨byte, byteMem, rfl⟩
  rw [IsReadable, Text.toNat_ofNat_toNat]
  exact isReadableByte_iff.mp (readable byte byteMem)

theorem ofText_of_text? (read : text? value = some text) : ofText text = value := by
  rw [ofText_eq_map (printable_of_text? read)]
  rcases text?_eq_some_iff.mp read with ⟨readable, rfl⟩
  rw [String.toList_ofList, List.map_map]
  refine (List.map_congr_left fun byte byteMem => ?_).trans (List.map_id value)
  have visible := isReadableByte_iff.mp (readable byte byteMem)
  have ascii : (Char.ofNat byte.toNat).toNat < 128 := by
    rw [Text.toNat_ofNat_toNat]
    omega
  rw [Function.comp_apply, id, ← UInt8.toNat_inj, Text.toNat_toUInt8 ascii, Text.toNat_ofNat_toNat]

/-- A character that a header may be set to: anything but a control character other than tab. -/
def IsSettable (character : Char) : Prop :=
  character.toNat = 9 ∨ 32 ≤ character.toNat ∧ character.toNat ≠ 127

instance : DecidablePred IsSettable :=
  fun _ => inferInstanceAs (Decidable (_ ∨ _ ∧ _))

theorem isSettableByte_iff {byte : UInt8} :
    isSettableByte byte ↔ byte.toNat = 9 ∨ 32 ≤ byte.toNat ∧ byte.toNat ≠ 127 := by
  simp [isSettableByte, UInt8.le_iff_toNat_le, ← UInt8.toNat_inj]

theorem settable_utf8EncodeChar_iff :
    (∀ byte ∈ String.utf8EncodeChar character, isSettableByte byte) ↔ IsSettable character := by
  by_cases ascii : character.toNat < 128
  · rw [Text.utf8EncodeChar_of_lt ascii, List.forall_mem_singleton, isSettableByte_iff,
      Text.toNat_toUInt8 ascii, IsSettable]
  · have beyond : ∀ byte ∈ String.utf8EncodeChar character, isSettableByte byte := by
      intro byte byteMem
      have high := Text.le_of_mem_utf8EncodeChar (by omega) byte byteMem
      exact isSettableByte_iff.mpr (.inr ⟨by omega, by omega⟩)
    exact iff_of_true beyond (.inr ⟨by omega, by omega⟩)

theorem settable_ofText_iff :
    (∀ byte ∈ ofText text, isSettableByte byte) ↔
      ∀ character ∈ text.toList, IsSettable character := by
  simp only [ofText, Text.encode_eq, Text.bytesOfChars, List.mem_flatMap, forall_exists_index,
    and_imp, ← settable_utf8EncodeChar_iff]
  exact ⟨fun settable character characterMem byte => settable byte character characterMem,
    fun settable byte character characterMem => settable character characterMem byte⟩

/-- A space or a tab. -/
def isSpaceByte (byte : UInt8) : Bool :=
  byte = 9 || byte = 32

/-- The value without the spaces and tabs at its ends. -/
def trimmed (value : HeaderValue) : HeaderValue :=
  ((value.dropWhile isSpaceByte).reverse.dropWhile isSpaceByte).reverse

theorem isBlank_ofNat {byte : UInt8} (readable : isReadableByte byte) :
    Text.isBlank (Char.ofNat byte.toNat) = isSpaceByte byte := by
  have visible := isReadableByte_iff.mp readable
  have space : isSpaceByte byte ↔ byte.toNat = 9 ∨ byte.toNat = 32 := by
    simp [isSpaceByte, ← UInt8.toNat_inj]
  rw [Bool.eq_iff_iff, space]
  simp only [Text.isBlank, Text.toNat_ofNat_toNat, Bool.or_eq_true, Bool.and_eq_true,
    decide_eq_true_eq, beq_iff_eq]
  omega

theorem dropWhile_isBlank (readable : ∀ byte ∈ value, isReadableByte byte) :
    (value.map fun byte => Char.ofNat byte.toNat).dropWhile Text.isBlank =
      (value.dropWhile isSpaceByte).map fun byte => Char.ofNat byte.toNat := by
  induction value with
  | nil => rfl
  | cons first rest ih =>
      rw [List.forall_mem_cons] at readable
      rw [List.map_cons, List.dropWhile_cons, List.dropWhile_cons, isBlank_ofNat readable.1]
      split
      · exact ih readable.2
      · rfl

/-- The trimmed text of a value is the text of the trimmed value. -/
theorem text?_trimmed (read : text? value = some text) :
    text? value.trimmed = some (Text.trim text) := by
  rcases text?_eq_some_iff.mp read with ⟨readable, rfl⟩
  have behind : ∀ byte ∈ (value.dropWhile isSpaceByte).reverse, isReadableByte byte := by
    intro byte byteMem
    exact readable byte ((List.dropWhile_suffix _).subset (List.mem_reverse.mp byteMem))
  have inside : ∀ byte ∈ value.trimmed, isReadableByte byte := by
    intro byte byteMem
    exact behind byte ((List.dropWhile_suffix _).subset (List.mem_reverse.mp byteMem))
  refine text?_eq_some_iff.mpr ⟨inside, ?_⟩
  rw [Text.trim, String.toList_ofList, Text.trimChars, Text.trimStartChars, Text.trimEndChars,
    dropWhile_isBlank readable, ← List.map_reverse, dropWhile_isBlank behind, ← List.map_reverse,
    trimmed]

/-- A readable value is read as a text, which is trimmed as the value is. -/
theorem exists_text? (readable : ∀ byte ∈ value, isReadableByte byte) :
    ∃ text, text? value = some text ∧ ofText (Text.trim text) = value.trimmed := by
  have read := text?_eq_some_iff.mpr ⟨readable, rfl⟩
  exact ⟨_, read, ofText_of_text? (text?_trimmed read)⟩

end HeaderValue

namespace Headers

/-- A printable text that is set is the only value, and reads as it was set. -/
theorem values_set_self (headers : Headers) (name : String) {text : String}
    (printable : IsPrintable text) :
    (headers.set name text).values name = [HeaderValue.ofText text] := by
  rw [set, HeaderValue.ofText?_of_printable printable]
  exact headers.values_insert_self name _

theorem values_set_of_settable (headers : Headers) (name : String) {text : String}
    (settable : ∀ character ∈ text.toList, HeaderValue.IsSettable character) :
    (headers.set name text).values name = [HeaderValue.ofText text] := by
  have allowed := List.all_eq_true.mpr (HeaderValue.settable_ofText_iff.mpr settable)
  rw [set, HeaderValue.ofText?, if_pos allowed]
  exact headers.values_insert_self name _

theorem set_of_not_settable (headers : Headers) (name : String) {text : String}
    (unsettable : ¬∀ character ∈ text.toList, HeaderValue.IsSettable character) :
    headers.set name text = headers := by
  have refused : ¬(HeaderValue.ofText text).all HeaderValue.isSettableByte := by
    rwa [List.all_eq_true, HeaderValue.settable_ofText_iff]
  rw [set, HeaderValue.ofText?, if_neg refused]

theorem text?_of_values {headers : Headers} {name text : String} (printable : IsPrintable text)
    (values : headers.values name = [HeaderValue.ofText text]) :
    headers.text? name = some text := by
  rw [text?, get?_eq_head?, values]
  exact HeaderValue.text?_ofText printable

theorem text?_remove_of_ne (headers : Headers) {name other : String} (distinct : other ≠ name) :
    (headers.remove name).text? other = headers.text? other := by
  rw [text?, text?, get?_eq_head?, get?_eq_head?, headers.values_remove_of_ne distinct]

theorem text?_remove_self (headers : Headers) (name : String) :
    (headers.remove name).text? name = none := by
  rw [text?, get?_eq_head?, headers.values_remove_self]
  rfl

end Headers

end Gatehouse.Http
