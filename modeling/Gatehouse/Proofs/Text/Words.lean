import Gatehouse.Text.Pieces
import Mathlib.Data.List.DropRight

/-!
# Words and entries

Words with a blank between neighbours are read as the same words, and entries
with a comma between neighbours as the same entries.  In the other direction,
whatever is read as a word holds no blank, and the entries of a word hold neither
a blank nor a comma.  So lines and lists that were read once can be written and
read again.
-/

namespace Gatehouse.Text

/-- The pieces of a list that is cut hold what the list holds, the places of the cuts apart. -/
theorem mem_of_mem_splitOnP {Symbol : Type} {cuts : Symbol → Bool} {symbols piece : List Symbol}
    {symbol : Symbol} (pieceMem : piece ∈ symbols.splitOnP cuts) (symbolMem : symbol ∈ piece) :
    symbol ∈ symbols ∧ cuts symbol = false := by
  induction symbols generalizing piece with
  | nil =>
      rw [List.splitOnP_nil, List.mem_singleton] at pieceMem
      simp [pieceMem] at symbolMem
  | cons first rest ih =>
      rw [List.splitOnP_cons_eq_if_modifyHead] at pieceMem
      split at pieceMem
      case isTrue =>
        rcases List.mem_cons.mp pieceMem with rfl | later
        · cases symbolMem
        · exact (ih later symbolMem).imp_left (List.mem_cons_of_mem first)
      case isFalse uncut =>
        rcases List.exists_cons_of_ne_nil (List.splitOnP_ne_nil cuts rest) with ⟨head, tail, cut⟩
        rw [cut, List.modifyHead_cons] at pieceMem
        rcases List.mem_cons.mp pieceMem with rfl | later
        · rcases List.mem_cons.mp symbolMem with rfl | symbolMem
          · exact ⟨List.mem_cons_self, by simpa using uncut⟩
          · exact (ih (by simp [cut]) symbolMem).imp_left (List.mem_cons_of_mem first)
        · exact (ih (by simp [cut, later]) symbolMem).imp_left (List.mem_cons_of_mem first)

variable {characters before after word : List Char} {separator : Char} {text entry : String}

theorem cutChars_append (absent : separator ∉ before) (after : List Char) :
    cutChars separator (before ++ separator :: after) = some (before, after) := by
  induction before with
  | nil => simp [cutChars]
  | cons character before ih =>
      rw [List.mem_cons, not_or] at absent
      rw [List.cons_append, cutChars, if_neg (Ne.symm absent.1), ih absent.2]
      rfl

theorem cutChars_eq_none (absent : separator ∉ characters) :
    cutChars separator characters = none := by
  induction characters with
  | nil => rfl
  | cons character rest ih =>
      rw [List.mem_cons, not_or] at absent
      rw [cutChars, if_neg (Ne.symm absent.1), ih absent.2]
      rfl

theorem cutChars_eq_some_iff :
    cutChars separator characters = some (before, after) ↔
      characters = before ++ separator :: after ∧ separator ∉ before := by
  constructor
  · intro cut
    induction characters generalizing before with
    | nil => cases cut
    | cons first rest ih =>
        rw [cutChars] at cut
        split at cut
        case isTrue same =>
          cases cut
          exact ⟨by rw [same, List.nil_append], List.not_mem_nil⟩
        case isFalse other =>
          rcases Option.map_eq_some_iff.mp cut with ⟨⟨earlier, later⟩, inRest, pair⟩
          cases pair
          rcases ih inRest with ⟨rfl, absent⟩
          exact ⟨rfl, by simp [absent, Ne.symm other]⟩
  · rintro ⟨rfl, absent⟩
    exact cutChars_append absent after

/-- What stands behind the first separator stands in the text. -/
theorem mem_of_cutChars {character : Char}
    (cut : cutChars separator characters = some (before, after))
    (characterMem : character ∈ after) :
    character ∈ characters := by
  rcases cutChars_eq_some_iff.mp cut with ⟨rfl, -⟩
  exact List.mem_append_right before (List.mem_cons_of_mem separator characterMem)

theorem trimStartChars_eq_self (starts : ∀ first ∈ characters.head?, isBlank first = false) :
    trimStartChars characters = characters := by
  cases characters with
  | nil => rfl
  | cons first rest => exact List.dropWhile_cons_of_neg (by simpa using starts)

/-- A text that starts visibly loses at its end alone. -/
theorem trimChars_prefix (starts : ∀ first ∈ characters.head?, isBlank first = false) :
    trimChars characters <+: characters := by
  rw [trimChars, trimStartChars_eq_self starts]
  exact List.rdropWhile_prefix isBlank _

theorem trimChars_eq_self (starts : ∀ first ∈ characters.head?, isBlank first = false)
    (ends : ∀ last ∈ characters.getLast?, isBlank last = false) :
    trimChars characters = characters := by
  rw [trimChars, trimStartChars_eq_self starts, trimEndChars]
  cases reversed : characters.reverse with
  | nil => simpa using reversed.symm
  | cons last rest =>
      have visible : isBlank last = false :=
        ends last (by simp [List.getLast?_eq_head?_reverse, reversed])
      rw [List.dropWhile_cons_of_neg (by simp [visible]), ← reversed, List.reverse_reverse]

/-- A text without blanks. -/
def IsPlain (characters : List Char) : Prop :=
  ∀ character ∈ characters, isBlank character = false

instance : DecidablePred IsPlain :=
  fun characters => List.decidableBAll (fun character => isBlank character = false) characters

theorem isPlain_append {front behind : List Char} :
    IsPlain (front ++ behind) ↔ IsPlain front ∧ IsPlain behind := by
  simp only [IsPlain, List.forall_mem_append]

theorem IsPlain.trimChars_eq (plain : IsPlain characters) : trimChars characters = characters :=
  trimChars_eq_self (fun first firstMem => plain first (List.mem_of_mem_head? firstMem))
    fun last lastMem => plain last (List.mem_of_mem_getLast? lastMem)

theorem IsPlain.trim_eq (plain : IsPlain text.toList) : trim text = text := by
  rw [trim, plain.trimChars_eq, String.ofList_toList]

theorem IsPlain.hasBlank_eq (plain : IsPlain text.toList) : hasBlank text = false := by
  simpa [hasBlank, IsPlain] using plain

theorem isPlain_of_hasBlank (unbroken : hasBlank text = false) : IsPlain text.toList := by
  simpa [hasBlank, IsPlain] using unbroken

theorem isBlank_of_mem_head? {first : Char} (firstMem : first ∈ (trimChars characters).head?) :
    isBlank first = false := by
  have shorter : trimChars characters <+: trimStartChars characters :=
    List.rdropWhile_prefix isBlank _
  have same : (trimStartChars characters).head? = some first := by
    rcases shorter with ⟨rest, whole⟩
    rw [← whole, List.head?_append, firstMem, Option.some_or]
  have visible := List.head?_dropWhile_not isBlank characters
  rw [← trimStartChars, same] at visible
  exact visible

theorem isBlank_of_mem_getLast? {last : Char} (lastMem : last ∈ (trimChars characters).getLast?) :
    isBlank last = false := by
  rcases List.getLast?_eq_some_iff.mp lastMem with ⟨front, whole⟩
  have dropped : (trimStartChars characters).rdropWhile isBlank = front ++ [last] := whole
  have visible := List.rdropWhile_last_not isBlank (trimStartChars characters) (by simp [dropped])
  simpa [dropped] using visible

/-- A text without blanks that is not empty. -/
structure IsWord (word : List Char) : Prop where
  nonempty : word ≠ []
  plain : IsPlain word

theorem IsWord.append {behind : List Char} (isWord : IsWord word) (plain : IsPlain behind) :
    IsWord (word ++ behind) :=
  ⟨List.append_ne_nil_of_left_ne_nil isWord.nonempty _, isPlain_append.mpr ⟨isWord.plain, plain⟩⟩

theorem wordsOfChars_append_cons {blank : Char} (blank_isBlank : isBlank blank)
    (before after : List Char) :
    wordsOfChars (before ++ blank :: after) = wordsOfChars before ++ wordsOfChars after := by
  rw [wordsOfChars, List.splitOnP_append_cons before after blank_isBlank, List.filter_append]
  rfl

theorem IsWord.wordsOfChars_eq (isWord : IsWord word) : wordsOfChars word = [word] := by
  rw [wordsOfChars, List.splitOnP_eq_singleton isWord.plain]
  simp [isWord.nonempty]

theorem wordsOfChars_intercalate {words : List (List Char)}
    (areWords : ∀ word ∈ words, IsWord word) : wordsOfChars ([' '].intercalate words) = words := by
  induction words with
  | nil => rfl
  | cons first rest ih =>
      rw [List.forall_mem_cons] at areWords
      cases rest with
      | nil => simpa using areWords.1.wordsOfChars_eq
      | cons next rest =>
          rw [List.intercalate_cons_cons, List.append_assoc, List.singleton_append,
            wordsOfChars_append_cons rfl, areWords.1.wordsOfChars_eq, ih areWords.2]
          rfl

theorem isWord_of_mem_wordsOfChars (wordMem : word ∈ wordsOfChars characters) : IsWord word := by
  rcases List.mem_filter.mp wordMem with ⟨pieceMem, nonempty⟩
  exact ⟨by simpa using nonempty, fun character characterMem =>
    (mem_of_mem_splitOnP pieceMem characterMem).2⟩

/-- The first word of a text that starts with no blank starts as the text does. -/
theorem exists_wordsOfChars_eq_cons {first : Char} (visible : isBlank first = false)
    (rest : List Char) :
    ∃ word words, wordsOfChars (first :: rest) = (first :: word) :: words := by
  rcases List.exists_cons_of_ne_nil (List.splitOnP_ne_nil isBlank rest) with ⟨head, tail, cut⟩
  refine ⟨head, tail.filter fun word => !word.isEmpty, ?_⟩
  rw [wordsOfChars, List.splitOnP_cons_eq_if_modifyHead, if_neg (by simp [visible]), cut,
    List.modifyHead_cons]
  rfl

/-- A word without a comma. -/
structure IsEntry (entry : String) : Prop extends IsWord entry.toList where
  whole : ',' ∉ entry.toList

theorem toList_join (separator : String) (texts : List String) :
    (join separator texts).toList = separator.toList.intercalate (texts.map String.toList) :=
  String.toList_intercalate

theorem forall_mem_join {holds : Char → Prop} {separator : String} {texts : List String}
    (between : ∀ character ∈ separator.toList, holds character) :
    (∀ character ∈ (join separator texts).toList, holds character) ↔
      ∀ text ∈ texts, ∀ character ∈ text.toList, holds character := by
  rw [toList_join]
  induction texts with
  | nil => simp
  | cons first rest ih =>
      rw [List.forall_mem_cons, ← ih]
      cases rest with
      | nil => simp
      | cons next rest =>
          rw [List.map_cons, List.map_cons, List.intercalate_cons_cons, List.forall_mem_append,
            List.forall_mem_append, and_iff_left between]

theorem isPlain_join {entries : List String} (plain : ∀ entry ∈ entries, IsPlain entry.toList) :
    IsPlain (join "," entries).toList := by
  have comma : IsPlain ",".toList := by decide
  exact (forall_mem_join comma).mpr plain

theorem isEntry_of_mem_commaList (plain : IsPlain text.toList) (entryMem : entry ∈ commaList text) :
    IsEntry entry := by
  rcases List.mem_filter.mp entryMem with ⟨trimmedMem, nonempty⟩
  rcases List.mem_map.mp trimmedMem with ⟨piece, pieceMem, rfl⟩
  rcases List.mem_map.mp pieceMem with ⟨characters, charactersMem, rfl⟩
  have within : ∀ character ∈ characters, character ∈ text.toList ∧ (character == ',') = false :=
    fun character characterMem => mem_of_mem_splitOnP charactersMem characterMem
  have unbroken : IsPlain (String.ofList characters).toList := by
    rw [String.toList_ofList]
    exact fun character characterMem => plain character (within character characterMem).1
  rw [unbroken.trim_eq] at nonempty ⊢
  refine ⟨⟨by simpa using nonempty, unbroken⟩, fun commaMem => ?_⟩
  rw [String.toList_ofList] at commaMem
  simpa using (within ',' commaMem).2

/-- Of texts without blanks and commas a comma list keeps all that are not empty. -/
theorem commaList_join_of_plain {entries : List String}
    (plain : ∀ entry ∈ entries, IsPlain entry.toList ∧ ',' ∉ entry.toList) :
    commaList (join "," entries) = entries.filter fun entry => entry ≠ "" := by
  cases entries with
  | nil => rfl
  | cons first rest =>
      have pieces : split ',' (join "," (first :: rest)) = first :: rest := by
        have whole : ∀ piece ∈ (first :: rest).map String.toList, ',' ∉ piece := by
          intro piece pieceMem
          rcases List.mem_map.mp pieceMem with ⟨entry, entryMem, rfl⟩
          exact (plain entry entryMem).2
        have comma : ",".toList = [','] := rfl
        rw [split, toList_join, comma, List.splitOn_intercalate ',' whole (by simp)]
        simp [List.map_map, Function.comp_def]
      have trimmed : (first :: rest).map trim = first :: rest := by
        rw [List.map_congr_left fun entry entryMem => (plain entry entryMem).1.trim_eq,
          List.map_id']
      rw [commaList, pieces, trimmed]
      apply List.filter_congr
      intro entry _
      rw [Bool.eq_iff_iff]
      simp

theorem commaList_join {entries : List String} (areEntries : ∀ entry ∈ entries, IsEntry entry) :
    commaList (join "," entries) = entries := by
  rw [commaList_join_of_plain fun entry entryMem =>
    ⟨(areEntries entry entryMem).plain, (areEntries entry entryMem).whole⟩, List.filter_eq_self]
  intro entry entryMem
  simpa using (areEntries entry entryMem).nonempty

theorem cases_toUpper (character : Char) :
    0x61 ≤ character.toNat ∧ character.toNat ≤ 0x7A ∧
      character.toUpper.toNat + 0x20 = character.toNat ∨ character.toUpper = character := by
  unfold Char.toUpper
  split
  case isTrue small =>
    left
    have lower := UInt32.le_iff_toNat_le.mp small.1
    have upper := UInt32.le_iff_toNat_le.mp small.2
    change 0x61 ≤ character.val.toNat at lower
    change character.val.toNat ≤ 0x7A at upper
    refine ⟨lower, upper, ?_⟩
    change (character.val + _).toNat + 0x20 = character.val.toNat
    rw [UInt32.toNat_add]
    change (character.val.toNat + 0xFFFFFFE0) % 2 ^ 32 + 0x20 = _
    omega
  case isFalse => exact .inr rfl

theorem toUpper_toUpper (character : Char) : character.toUpper.toUpper = character.toUpper := by
  rcases cases_toUpper character with ⟨-, upper, code⟩ | kept
  · rcases cases_toUpper character.toUpper with ⟨lower, -, -⟩ | kept
    · omega
    · exact kept
  · rw [kept, kept]

theorem isBlank_toUpper (character : Char) : isBlank character.toUpper = isBlank character := by
  rcases cases_toUpper character with ⟨lower, upper, code⟩ | kept
  · have visible : ∀ other : Char, 0x41 ≤ other.toNat → other.toNat ≤ 0x7A →
        isBlank other = false := by
      intro other lower upper
      simp only [isBlank, Bool.or_eq_false_iff, Bool.and_eq_false_iff, decide_eq_false_iff_not,
        beq_eq_false_iff_ne]
      omega
    rw [visible character (by omega) upper, visible character.toUpper (by omega) (by omega)]
  · rw [kept]

theorem toUpper_eq_comma_iff {character : Char} : character.toUpper = ',' ↔ character = ',' := by
  have comma : (',' : Char).toNat = 0x2C := rfl
  constructor
  · intro same
    rcases cases_toUpper character with ⟨lower, -, code⟩ | kept
    · rw [same] at code
      omega
    · rw [← kept, same]
  · rintro rfl
    rfl

theorem toList_asciiUpper (text : String) :
    (asciiUpper text).toList = text.toList.map Char.toUpper := by
  simp [asciiUpper, asciiUpperChars]

theorem asciiUpper_asciiUpper (text : String) : asciiUpper (asciiUpper text) = asciiUpper text := by
  have twice : Char.toUpper ∘ Char.toUpper = Char.toUpper := funext toUpper_toUpper
  rw [asciiUpper, asciiUpperChars, toList_asciiUpper, List.map_map, twice]
  rfl

theorem IsEntry.asciiUpper (isEntry : IsEntry entry) : IsEntry (asciiUpper entry) := by
  constructor
  case toIsWord =>
      rw [toList_asciiUpper]
      refine ⟨by simpa using isEntry.nonempty, fun character characterMem => ?_⟩
      rcases List.mem_map.mp characterMem with ⟨original, originalMem, rfl⟩
      rw [isBlank_toUpper]
      exact isEntry.plain original originalMem
  case whole =>
      rw [toList_asciiUpper]
      intro commaMem
      rcases List.mem_map.mp commaMem with ⟨original, originalMem, same⟩
      rw [toUpper_eq_comma_iff] at same
      exact isEntry.whole (same ▸ originalMem)

end Gatehouse.Text
