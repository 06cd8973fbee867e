import Gatehouse.Text.Pieces
import Gatehouse.Text.Utf8

/-!
# Headers

A header section is a list of named values in order.  Names are written in
small letters; a name may occur more than once, and values of one name keep
their order.  A value holds bytes.  It can be read as text only if every byte
is visible ASCII, a space or a tab, but it may be set to any text without
control characters other than tab.

Reading a name answers its first value, and setting a name leaves one value.
-/

namespace Gatehouse.Http

/-- The bytes of a header value. -/
abbrev HeaderValue := List UInt8

namespace HeaderValue

/-- A byte that text in a header may be read from: visible ASCII, a space or a tab. -/
def isReadableByte (byte : UInt8) : Bool :=
  byte = 9 || (32 ≤ byte && byte < 127)

/-- A byte that a header value may hold. -/
def isSettableByte (byte : UInt8) : Bool :=
  byte = 9 || (32 ≤ byte && byte ≠ 127)

/-- The text of a value, if it can be read as text. -/
def text? (value : HeaderValue) : Option String :=
  if value.all isReadableByte then some (.ofList (value.map fun byte => Char.ofNat byte.toNat))
  else none

def ofText (text : String) : HeaderValue :=
  (Text.encode text).data.toList

/-- The value that a text may be set as. -/
def ofText? (text : String) : Option HeaderValue :=
  if (ofText text).all isSettableByte then some (ofText text) else none

end HeaderValue

/-- A header section. -/
structure Headers where
  /-- The names, in small letters, with their values, in order. -/
  fields : List (String × HeaderValue)
  deriving DecidableEq, Repr, Inhabited

namespace Headers

def empty : Headers :=
  ⟨[]⟩

def values (headers : Headers) (name : String) : List HeaderValue :=
  (headers.fields.filter fun field => field.1 == name).map (·.2)

/-- The first value of a name. -/
def get? (headers : Headers) (name : String) : Option HeaderValue :=
  headers.fields.lookup name

def contains (headers : Headers) (name : String) : Bool :=
  (headers.get? name).isSome

/-- The text of the first value of a name, if it can be read as text. -/
def text? (headers : Headers) (name : String) : Option String :=
  (headers.get? name).bind HeaderValue.text?

/-- The section of names in any case with their values. -/
def ofList (fields : List (String × HeaderValue)) : Headers :=
  ⟨fields.map fun (name, value) => (Text.asciiLower name, value)⟩

def remove (headers : Headers) (name : String) : Headers :=
  ⟨headers.fields.filter fun field => field.1 ≠ name⟩

def removeAll (headers : Headers) (names : List String) : Headers :=
  ⟨headers.fields.filter fun field => !names.contains field.1⟩

/-- Leaves a name with one value. -/
def insert (headers : Headers) (name : String) (value : HeaderValue) : Headers :=
  ⟨(headers.remove name).fields ++ [(name, value)]⟩

/-- Leaves a name with one text; a text that no header may hold is dropped. -/
def set (headers : Headers) (name text : String) : Headers :=
  match HeaderValue.ofText? text with
  | some value => headers.insert name value
  | none => headers

theorem get?_eq_head? (headers : Headers) (name : String) :
    headers.get? name = (headers.values name).head? := by
  obtain ⟨fields⟩ := headers
  induction fields with
  | nil => rfl
  | cons field rest ih =>
    simp only [get?, values] at ih ⊢
    rw [List.lookup_cons, List.filter_cons]
    by_cases same : field.1 = name
    · simp [same]
    · have other : (name == field.1) = false := by simpa using Ne.symm same
      have dropped : (field.1 == name) = false := by simpa using same
      rw [other, dropped]
      exact ih

@[simp]
theorem values_remove_self (headers : Headers) (name : String) :
    (headers.remove name).values name = [] := by
  simp [values, remove, List.filter_filter]

theorem values_remove_of_ne (headers : Headers) {name other : String} (distinct : other ≠ name) :
    (headers.remove name).values other = headers.values other := by
  simp only [values, remove, List.filter_filter]
  congr 1
  apply List.filter_congr
  intro field _
  by_cases same : field.1 = other <;> simp [same, distinct]

@[simp]
theorem values_insert_self (headers : Headers) (name : String) (value : HeaderValue) :
    (headers.insert name value).values name = [value] := by
  have removed := headers.values_remove_self name
  simp only [values] at removed
  simp [insert, values, List.filter_append, removed]

theorem values_insert_of_ne (headers : Headers) {name other : String} (value : HeaderValue)
    (distinct : other ≠ name) :
    (headers.insert name value).values other = headers.values other := by
  have removed := headers.values_remove_of_ne distinct
  simp only [values] at removed
  simp [insert, values, List.filter_append, removed, Ne.symm distinct]

theorem values_set_of_ne (headers : Headers) {name other : String} (text : String)
    (distinct : other ≠ name) :
    (headers.set name text).values other = headers.values other := by
  unfold set
  split
  · exact headers.values_insert_of_ne _ distinct
  · rfl

theorem values_removeAll (headers : Headers) (names : List String) (name : String) :
    (headers.removeAll names).values name =
      if names.contains name then [] else headers.values name := by
  simp only [values, removeAll, List.filter_filter]
  split
  case isTrue listed =>
    simp only [List.map_eq_nil_iff, List.filter_eq_nil_iff]
    intro field _ kept
    simp only [Bool.and_eq_true, beq_iff_eq, Bool.not_eq_true',
      decide_eq_true_eq, List.contains_eq_mem, decide_eq_false_iff_not] at kept listed
    exact kept.2 (kept.1 ▸ listed)
  case isFalse unlisted =>
    congr 1
    apply List.filter_congr
    intro field _
    by_cases same : field.1 = name <;> simp_all

end Headers

end Gatehouse.Http
