import Gatehouse.Proofs.Text.Words
import Gatehouse.Text.Decimal
import Mathlib.Data.Nat.Digits.Defs

/-!
# Numerals

A natural number is written as a word of digits, and the word is read as the
number.  In the other direction, what can be read is just what writes an integer: one
digit or more, each counting ten times what the next one does, with a sign in front
or without one.
-/

namespace Gatehouse.Text

variable {number : Nat} {value : Int} {characters : List Char} {text : String}

theorem digit?_digitChar : ∀ {digit : Nat}, digit < 10 → digit? digit.digitChar = some digit := by
  decide

/-- Digits are read from the front: each of them counts ten times what the next one does. -/
theorem foldlM_toDigits (number : Nat) :
    (Nat.toDigits 10 number).foldlM (fun value character => (value * 10 + ·) <$> digit? character)
      0 = some number := by
  induction number using Nat.strongRecOn with
  | ind number ih =>
      by_cases single : number < 10
      · rw [Nat.toDigits_of_lt_base single]
        simp [digit?_digitChar single]
      · have last : number % 10 < 10 := Nat.mod_lt _ (by decide)
        rw [Nat.toDigits_of_base_le (by decide) (by omega), List.foldlM_append,
          ih (number / 10) (by omega)]
        simp only [Option.bind_eq_bind, Option.bind_some, List.foldlM_cons, List.foldlM_nil,
          digit?_digitChar last]
        simp only [Option.map_eq_map, Option.map_some, Option.bind_some, Option.pure_def,
          Option.some.injEq]
        omega

theorem natural?_toDigits (number : Nat) : natural? (Nat.toDigits 10 number) = some number := by
  have read := foldlM_toDigits number
  unfold natural?
  split
  · simp_all
  · exact read

theorem isDigit_of_mem_toString {character : Char}
    (characterMem : character ∈ (toString number).toList) :
    character.isDigit := by
  rw [Nat.toString_eq_repr, Nat.toList_repr] at characterMem
  exact Nat.isDigit_of_mem_toDigits (by decide) (by decide) characterMem

theorem bounds_of_mem_toString {character : Char}
    (characterMem : character ∈ (toString number).toList) :
    48 ≤ character.toNat ∧ character.toNat ≤ 57 := by
  have digit := isDigit_of_mem_toString characterMem
  simp only [Char.isDigit, Bool.and_eq_true, decide_eq_true_eq, UInt32.le_iff_toNat_le] at digit
  exact digit

theorem natural?_toString (number : Nat) : natural? (toString number).toList = some number := by
  rw [Nat.toString_eq_repr, Nat.toList_repr, natural?_toDigits]

theorem signed?_toString (number : Nat) :
    signed? (toString number).toList = some (number : Int) := by
  have unsigned : ∀ sign ∈ ['-', '+'], ∀ rest, (toString number).toList ≠ sign :: rest := by
    intro sign signMem rest signed
    have digit : sign.isDigit := isDigit_of_mem_toString (by rw [signed]; exact List.mem_cons_self)
    rcases List.mem_pair.mp signMem with rfl | rfl <;> cases digit
  unfold signed?
  split
  · rename_i signed
    exact absurd signed (unsigned '-' (by decide) _)
  · rename_i signed
    exact absurd signed (unsigned '+' (by decide) _)
  · rw [natural?_toString]
    rfl

theorem signed?_toString_int (number : Int) : signed? (toString number).toList = some number := by
  cases number with
  | ofNat magnitude => exact signed?_toString magnitude
  | negSucc magnitude =>
      have written : (toString (Int.negSucc magnitude)).toList =
          '-' :: (toString (magnitude + 1)).toList := by
        change ("-" ++ toString (magnitude + 1)).toList = _
        simp
      rw [written, signed?, natural?_toString]
      rfl

theorem int64?_toString_int {number : Int} (lower : -Int.pow 2 63 ≤ number)
    (upper : number < Int.pow 2 63) : int64? (toString number) = some number := by
  rw [int64?, signed?_toString_int, Option.filter_some, if_pos]
  simp only [Bool.and_eq_true, decide_eq_true_eq]
  exact ⟨lower, upper⟩

theorem int64?_toString (fits : number < Nat.pow 2 63) :
    int64? (toString number) = some (number : Int) := by
  have limit : (Nat.pow 2 63 : Int) = Int.pow 2 63 := rfl
  exact @int64?_toString_int number (by omega) (by omega)

theorem isWord_toString (number : Nat) : IsWord (toString number).toList := by
  constructor
  case nonempty =>
      rw [Nat.toString_eq_repr, Nat.toList_repr]
      exact Nat.toDigits_ne_nil
  case plain =>
      intro character characterMem
      have bounds := bounds_of_mem_toString characterMem
      simp only [isBlank, Bool.or_eq_false_iff, Bool.and_eq_false_iff, decide_eq_false_iff_not,
        beq_eq_false_iff_ne]
      omega

theorem isPlain_toString_int (number : Int) : IsPlain (toString number).toList := by
  cases number with
  | ofNat magnitude => exact (isWord_toString magnitude).plain
  | negSucc magnitude =>
      change IsPlain ("-" ++ toString (magnitude + 1)).toList
      rw [String.toList_append, isPlain_append]
      exact ⟨by decide, (isWord_toString (magnitude + 1)).plain⟩

def digitValue (digit : Char) : Nat :=
  digit.toNat - '0'.toNat

/-- The characters are digits of a natural number; zeros may stand in front. -/
structure IsNumeral (characters : List Char) (number : Nat) : Prop where
  nonempty : characters ≠ []
  digits : ∀ character ∈ characters, character.isDigit
  /-- Each digit counts ten times what the next one does. -/
  value : number = Nat.ofDigits 10 (characters.reverse.map digitValue)

/-- The characters write an integer in decimal, with a sign in front or without one. -/
inductive WritesInteger : List Char → Int → Prop
  | bare {digits : List Char} {number : Nat} (numeral : IsNumeral digits number) :
      WritesInteger digits number
  | plus {digits : List Char} {number : Nat} (numeral : IsNumeral digits number) :
      WritesInteger ('+' :: digits) number
  | minus {digits : List Char} {number : Nat} (numeral : IsNumeral digits number) :
      WritesInteger ('-' :: digits) (-number)

theorem digit?_eq_some_iff {character : Char} :
    digit? character = some number ↔ character.isDigit ∧ number = digitValue character := by
  have isDigit : character.isDigit ↔ '0' ≤ character ∧ character ≤ '9' := by
    rw [Char.isDigit, Bool.and_eq_true, decide_eq_true_iff, decide_eq_true_iff]
    exact Iff.rfl
  rw [isDigit, digit?, Option.ite_none_right_eq_some, Option.some.injEq, digitValue,
    eq_comm (a := number)]

theorem foldlM_digits_eq_some_iff {start : Nat} :
    characters.foldlM (fun value character => (value * 10 + ·) <$> digit? character) start =
        some number ↔
      (∀ character ∈ characters, character.isDigit) ∧
        number = start * 10 ^ characters.length +
          Nat.ofDigits 10 (characters.reverse.map digitValue) := by
  induction characters generalizing start with
  | nil => simp [eq_comm (a := start)]
  | cons character rest ih =>
      have value : Nat.ofDigits 10 ((character :: rest).reverse.map digitValue) =
          Nat.ofDigits 10 (rest.reverse.map digitValue) +
            10 ^ rest.length * digitValue character := by
        simp [Nat.ofDigits_append]
      rw [List.foldlM_cons, value, List.forall_mem_cons, List.length_cons, pow_succ]
      constructor
      · intro read
        rcases Option.bind_eq_some_iff.mp read with ⟨next, digit, read⟩
        rcases Option.map_eq_some_iff.mp digit with ⟨first, found, rfl⟩
        rcases digit?_eq_some_iff.mp found with ⟨isDigit, rfl⟩
        rcases ih.mp read with ⟨digits, rfl⟩
        exact ⟨⟨isDigit, digits⟩, by ring⟩
      · rintro ⟨⟨isDigit, digits⟩, rfl⟩
        have digit := digit?_eq_some_iff.mpr ⟨isDigit, rfl⟩
        rw [digit]
        exact ih.mpr ⟨digits, by ring⟩

theorem natural?_eq_some_iff : natural? characters = some number ↔ IsNumeral characters number := by
  have fields : IsNumeral characters number ↔ characters ≠ [] ∧
      (∀ character ∈ characters, character.isDigit) ∧
        number = 0 * 10 ^ characters.length +
          Nat.ofDigits 10 (characters.reverse.map digitValue) := by
    rw [Nat.zero_mul, Nat.zero_add]
    exact ⟨fun numeral => ⟨numeral.nonempty, numeral.digits, numeral.value⟩,
      fun ⟨nonempty, digits, value⟩ => ⟨nonempty, digits, value⟩⟩
  rw [fields, ← foldlM_digits_eq_some_iff]
  cases characters with
  | nil => simp [natural?]
  | cons first rest => simp [natural?]

theorem IsNumeral.ne_sign {sign : Char} {rest : List Char}
    (numeral : IsNumeral (sign :: rest) number) : sign ≠ '-' ∧ sign ≠ '+' := by
  have digit := numeral.digits sign List.mem_cons_self
  constructor
  · rintro rfl
    cases digit
  · rintro rfl
    cases digit

theorem signed?_eq_some_iff : signed? characters = some value ↔ WritesInteger characters value := by
  constructor
  · intro read
    unfold signed? at read
    split at read
    · rcases Option.map_eq_some_iff.mp read with ⟨_, magnitude, rfl⟩
      rcases Option.bind_eq_some_iff.mp magnitude with ⟨number, digits, ⟨⟩⟩
      exact .minus (natural?_eq_some_iff.mp digits)
    · rcases Option.map_eq_some_iff.mp read with ⟨number, digits, rfl⟩
      exact .plus (natural?_eq_some_iff.mp digits)
    · rcases Option.map_eq_some_iff.mp read with ⟨number, digits, rfl⟩
      exact .bare (natural?_eq_some_iff.mp digits)
  · intro writes
    cases writes with
    | bare numeral =>
        have read := natural?_eq_some_iff.mpr numeral
        unfold signed?
        split
        · exact absurd rfl numeral.ne_sign.1
        · exact absurd rfl numeral.ne_sign.2
        · rw [read]
          rfl
    | plus numeral => rw [signed?, natural?_eq_some_iff.mpr numeral]; rfl
    | minus numeral => rw [signed?, natural?_eq_some_iff.mpr numeral]; rfl

theorem int64?_eq_some_natCast_iff :
    int64? text = some (number : Int) ↔
      WritesInteger text.toList number ∧ number < Nat.pow 2 63 := by
  have limit : (Nat.pow 2 63 : Int) = Int.pow 2 63 := rfl
  rw [int64?, Option.filter_eq_some_iff, signed?_eq_some_iff]
  simp only [Bool.and_eq_true, decide_eq_true_eq]
  apply and_congr_right
  intro _
  constructor
  · rintro ⟨-, upper⟩
    omega
  · intro fits
    exact ⟨by omega, by omega⟩

end Gatehouse.Text
