import Gatehouse.Unicode.ScriptTable
import Gatehouse.Unicode.Spans

/-!
# Scripts

The common scripts with the names that patterns give them.
-/

namespace Gatehouse.Unicode

/-- A script with a table. -/
inductive Script where
  | latin
  | greek
  | cyrillic
  | armenian
  | hebrew
  | arabic
  | devanagari
  | thai
  | georgian
  | hangul
  | hiragana
  | katakana
  | han
  deriving DecidableEq, Repr

namespace Script

def all : List Script :=
  [.latin, .greek, .cyrillic, .armenian, .hebrew, .arabic, .devanagari, .thai, .georgian,
    .hangul, .hiragana, .katakana, .han]

/-- The names of a script, in small letters. -/
def names : Script → List String
  | .latin => ["latin", "latn"]
  | .greek => ["greek", "grek"]
  | .cyrillic => ["cyrillic", "cyrl"]
  | .armenian => ["armenian", "armn"]
  | .hebrew => ["hebrew", "hebr"]
  | .arabic => ["arabic", "arab"]
  | .devanagari => ["devanagari", "deva"]
  | .thai => ["thai", "thai"]
  | .georgian => ["georgian", "geor"]
  | .hangul => ["hangul", "hang"]
  | .hiragana => ["hiragana", "hira"]
  | .katakana => ["katakana", "kana"]
  | .han => ["han", "hani"]

def table : Script → String
  | .latin => ScriptTable.latin
  | .greek => ScriptTable.greek
  | .cyrillic => ScriptTable.cyrillic
  | .armenian => ScriptTable.armenian
  | .hebrew => ScriptTable.hebrew
  | .arabic => ScriptTable.arabic
  | .devanagari => ScriptTable.devanagari
  | .thai => ScriptTable.thai
  | .georgian => ScriptTable.georgian
  | .hangul => ScriptTable.hangul
  | .hiragana => ScriptTable.hiragana
  | .katakana => ScriptTable.katakana
  | .han => ScriptTable.han

end Script

/-- The spans of each script, in the order of `Script.all`. -/
def scriptSpans : Array Spans :=
  (Script.all.map fun script => Spans.ofText script.table).toArray

namespace Script

def contains (script : Script) (code : Nat) : Bool :=
  ((scriptSpans[script.ctorIdx]?).getD #[]).contains code

end Script

end Gatehouse.Unicode
