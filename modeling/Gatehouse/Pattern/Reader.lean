import Gatehouse.Pattern.Property
import Gatehouse.Pattern.Size
import Gatehouse.Text.Decimal

/-!
# Reading patterns

The written form of patterns, read by descent with the flags in force carried
along.  A flag set inside a group holds to the end of that group, over its
alternatives; in verbose mode blanks and comments between the parts do not
count.

Reading answers with the tree and the depth of its nesting, or with nothing if
the text is no pattern.  Nothing is said about why.
-/

namespace Gatehouse.PatternReader

/-- The flags in force. -/
structure Flags where
  /-- Letters match their case variants. -/
  foldCase : Bool := false
  /-- `^` and `$` also match at lines. -/
  multiLine : Bool := false
  /-- `.` also matches a line feed. -/
  dotAll : Bool := false
  /-- Classes and case variants are those of Unicode, not of ASCII. -/
  unicode : Bool := true
  /-- Lines also end at a carriage return. -/
  crlf : Bool := false
  /-- Blanks and comments do not count. -/
  verbose : Bool := false
  deriving DecidableEq, Repr

/-- Where reading stands. -/
structure Cursor where
  rest : List Char
  flags : Flags
  /-- The names that groups have. -/
  names : List (List Char)

/-- A part that was read. -/
structure Part where
  tree : PatternTree
  depth : Nat
  /-- It may be repeated. -/
  repeatable : Bool := true

/-- Skips blanks and comments; the first argument says that a comment is open. -/
def skipComments : Bool → List Char → List Char
  | _, [] => []
  | true, character :: rest => skipComments (character != '\n') rest
  | false, character :: rest =>
      if Text.isBlank character then skipComments false rest
      else if character = '#' then skipComments true rest
      else character :: rest

/-- Skips what does not count under the flags. -/
def skip (flags : Flags) (characters : List Char) : List Char :=
  if flags.verbose then skipComments false characters else characters

/-- The characters up to a closing brace, each of which must be acceptable, and
what follows the brace. -/
def takeBraced (verbose : Bool) (acceptable : Char → Bool) :
    Bool → List Char → Option (List Char × List Char)
  | _, [] => none
  | true, character :: rest => takeBraced verbose acceptable (character != '\n') rest
  | false, character :: rest =>
      if verbose && Text.isBlank character then takeBraced verbose acceptable false rest
      else if verbose && character = '#' then takeBraced verbose acceptable true rest
      else if character = '\x7d' then some ([], rest)
      else if acceptable character then
        (takeBraced verbose acceptable false rest).map fun (taken, rest) =>
          (character :: taken, rest)
      else none

/-- Some digits, between which blanks may be skipped. -/
def takeDigits (flags : Flags) : Nat → List Char → List Char × List Char
  | 0, rest => ([], rest)
  | _, [] => ([], [])
  | fuel + 1, character :: rest =>
      if character.isDigit then
        let (digits, rest) := takeDigits flags fuel (skip flags rest)
        (character :: digits, rest)
      else ([], character :: rest)

/-- A count, if digits give one below 2^32, with blanks around it. -/
def readCount (flags : Flags) (characters : List Char) : Option Nat × List Char :=
  let trimmed := characters.dropWhile Text.isBlank
  let (digits, rest) := takeDigits flags trimmed.length trimmed
  ((Text.natural? digits).filter (· < Nat.pow 2 32), skip flags (rest.dropWhile Text.isBlank))

/-- What an escape or a plain character stands for. -/
inductive Primitive where
  /-- A character; `byteForm` says that it was written as two hexadecimal digits. -/
  | literal (character : Char) (byteForm : Bool)
  | set (members : CharSet)
  | look (test : Look)

def isMeta (character : Char) : Bool :=
  "\\.+*?()|[]\x7b\x7d^$#&-~".toList.contains character

/-- A backslash may stand before the character without changing it. -/
def isEscapable (character : Char) : Bool :=
  isMeta character ||
    (character.toNat < 0x80 && !character.isAlphanum && character != '<' && character != '>')

def wordSet (flags : Flags) : CharSet :=
  if flags.unicode then .word else .asciiWord

/-- The character that hexadecimal digits give. -/
def charOfHex? (digits : List Char) : Option Char := do
  if digits.isEmpty then none
  else
    let code ← Unicode.hexValue? digits
    if code.isValidChar then some (Char.ofNat code) else none

/-- A fixed number of hexadecimal digits. -/
def takeHex (flags : Flags) : Nat → List Char → Option (List Char × List Char)
  | 0, rest => some ([], rest)
  | _ + 1, [] => none
  | count + 1, character :: rest =>
      if (Unicode.hexDigit? character).isSome then
        (takeHex flags count (skip flags rest)).map fun (digits, rest) =>
          (character :: digits, rest)
      else none

/-- A character by its code point, behind the letter that gives the number of digits. -/
def readHex (flags : Flags) (letter : Char) (characters : List Char) :
    Option (Primitive × List Char) := do
  match skip flags characters with
  | '\x7b' :: rest =>
      let (digits, rest) ←
        takeBraced flags.verbose (fun c => (Unicode.hexDigit? c).isSome) false rest
      return (.literal (← charOfHex? digits) false, skip flags rest)
  | rest =>
      let count := if letter = 'x' then 2 else if letter = 'u' then 4 else 8
      let (digits, rest) ← takeHex flags count rest
      return (.literal (← charOfHex? digits) (letter = 'x'), rest)

/-- The parts of a text before and after a separator of one or two characters. -/
def cutAt (separator : List Char) : List Char → Option (List Char × List Char)
  | [] => none
  | character :: rest =>
      if separator.isPrefixOf (character :: rest) then
        some ([], (character :: rest).drop separator.length)
      else (cutAt separator rest).map fun (before, after) => (character :: before, after)

/-- The set that the text of a property class means, and whether it is negated. -/
def propertySet? (name : List Char) : Option (CharSet × Bool) :=
  match cutAt ['!', '='] name with
  | some (property, value) =>
      (CharSet.ofPropertyValue? (.ofList property) (.ofList value)).map (·, true)
  | none =>
      match cutAt [':'] name with
      | some (property, value) =>
          (CharSet.ofPropertyValue? (.ofList property) (.ofList value)).map (·, false)
      | none =>
          match cutAt ['='] name with
          | some (property, value) =>
              (CharSet.ofPropertyValue? (.ofList property) (.ofList value)).map (·, false)
          | none => (CharSet.ofPropertyName? (.ofList name)).map (·, false)

/-- A set under the case flag. -/
def folded (flags : Flags) (set : CharSet) : CharSet :=
  if flags.foldCase then (if flags.unicode then .fold set else .foldAscii set) else set

/-- A property class behind its letter. -/
def readProperty (flags : Flags) (negated : Bool) (characters : List Char) :
    Option (Primitive × List Char) := do
  let (name, rest) ← match skip flags characters with
    | [] => none
    | '\x7b' :: rest => takeBraced flags.verbose (fun _ => true) false rest
    | '\\' :: _ => none
    | character :: rest => some ([character], skip flags rest)
  let (set, negatedValue) ← propertySet? name
  if flags.unicode then
    let set := folded flags set
    return (.set (if negated != negatedValue then .compl set else set), rest)
  else none

def letterClass? (flags : Flags) (letter : Char) : Option CharSet :=
  let set := match letter.toLower with
    | 'd' => if flags.unicode then CharSet.digit else .asciiDigit
    | 's' => if flags.unicode then CharSet.blank else .asciiBlank
    | _ => wordSet flags
  if letter.isUpper then (if flags.unicode then some (.compl set) else none) else some set

/-- The name of a word edge in braces, if the braces hold one. -/
def readWordEdge (flags : Flags) (characters : List Char) : Option (Look × List Char) := do
  let isNameChar (character : Char) : Bool := character.isAlpha || character = '-'
  match characters with
  | '\x7b' :: rest =>
      match skip flags rest with
      | [] => none
      | first :: rest =>
          if isNameChar first then
            let (name, rest) ← takeBraced flags.verbose isNameChar false (first :: rest)
            let word := wordSet flags
            match String.ofList name with
            | "start" => return (.wordStart word, rest)
            | "end" => return (.wordEnd word, rest)
            | "start-half" => return (.wordStartHalf word, rest)
            | "end-half" => return (.wordEndHalf word, rest)
            | _ => none
          else return (.wordEdge (wordSet flags), characters)
  | _ => return (.wordEdge (wordSet flags), characters)

def readEscape (flags : Flags) : List Char → Option (Primitive × List Char)
  | [] => none
  | character :: rest =>
      match character with
      | 'x' | 'u' | 'U' => readHex flags character rest
      | 'p' => readProperty flags false rest
      | 'P' => readProperty flags true rest
      | 'd' | 's' | 'w' | 'D' | 'S' | 'W' =>
          (letterClass? flags character).map fun set => (.set set, rest)
      | 'a' => some (.literal '\x07' false, rest)
      | 'f' => some (.literal '\x0c' false, rest)
      | 't' => some (.literal '\t' false, rest)
      | 'n' => some (.literal '\n' false, rest)
      | 'r' => some (.literal '\r' false, rest)
      | 'v' => some (.literal '\x0b' false, rest)
      | 'A' => some (.look .start, rest)
      | 'z' => some (.look .finish, rest)
      | 'b' => (readWordEdge flags rest).map fun (test, rest) => (.look test, rest)
      | 'B' => some (.look (.noWordEdge (wordSet flags)), rest)
      | '<' => some (.look (.wordStart (wordSet flags)), rest)
      | '>' => some (.look (.wordEnd (wordSet flags)), rest)
      | character => if isEscapable character then some (.literal character false, rest) else none

/-- An operation between the two sides of a class. -/
inductive ClassOperation where
  | inter
  | diff
  | symmDiff

/-- A set that was read inside brackets, with the depth of its nesting. -/
structure ClassPart where
  set : CharSet
  depth : Nat

/-- The items that stand side by side, last first, as one set. -/
def ClassPart.unite : List ClassPart → ClassPart
  | [] => ⟨.empty, 0⟩
  | [item] => item
  | items =>
      ⟨.unions (items.reverse.map (·.set)), 1 + (items.map (·.depth)).foldl max 0⟩

/-- The left side, if there is one, combined with the right side. -/
def ClassPart.combine (flags : Flags) (left : Option (ClassOperation × ClassPart))
    (right : ClassPart) : ClassPart :=
  match left with
  | none => right
  | some (operation, left) =>
      let first := folded flags left.set
      let second := folded flags right.set
      let set := match operation with
        | .inter => CharSet.inter first second
        | .diff => CharSet.diff first second
        | .symmDiff => CharSet.symmDiff first second
      ⟨set, 1 + max left.depth right.depth⟩

/-- A set under the flags and a negation; only Unicode sets can be negated. -/
def finishClass (flags : Flags) (negated : Bool) (set : CharSet) : Option CharSet :=
  let set := folded flags set
  if negated then (if flags.unicode then some (.compl set) else none) else some set

/-- A named ASCII class behind `[`, if there is one, with what follows it. -/
def asciiClass? : List Char → Option (Bool × CharSet × List Char)
  | ':' :: rest =>
      let (negated, rest) := match rest with
        | '^' :: rest => (true, rest)
        | rest => (false, rest)
      let name := rest.takeWhile (· != ':')
      match rest.dropWhile (· != ':') with
      | ':' :: ']' :: rest => (CharSet.ofAsciiName? (.ofList name)).map (negated, ·, rest)
      | _ => none
  | _ => none

/-- A plain or escaped item of a class. -/
def readClassItem (flags : Flags) : List Char → Option (Primitive × List Char)
  | [] => none
  | '\\' :: rest => readEscape flags rest
  | character :: rest => some (.literal character false, rest)

/-- A character that may stand in a class under the flags. -/
def classLiteral? (flags : Flags) : Primitive → Option Char
  | .literal character _ =>
      if flags.unicode || character.toNat < 0x80 then some character else none
  | _ => none

/-- The set of a single item. -/
def itemSet? (flags : Flags) (item : Primitive) : Option CharSet :=
  match item with
  | .set members => some members
  | item => (classLiteral? flags item).map .single

/-- The next character that counts behind the given one. -/
def peek (flags : Flags) (rest : List Char) : Option Char :=
  if flags.verbose then
    match rest.dropWhile Text.isBlank with
    | '#' :: rest => (rest.dropWhile Text.isBlank).head?
    | rest => rest.head?
  else rest.head?

/-- An item or a range of a class. -/
def readClassRange (flags : Flags) (characters : List Char) :
    Option (ClassPart × List Char) := do
  let (first, rest) ← readClassItem flags characters
  match skip flags rest with
  | [] => none
  | '-' :: rest =>
      if peek flags rest = some ']' ∨ peek flags rest = some '-' then
        return (⟨← itemSet? flags first, 0⟩, '-' :: rest)
      else
        match skip flags rest with
        | [] => none
        | rest =>
            let (second, rest) ← readClassItem flags rest
            let low ← classLiteral? flags first
            let high ← classLiteral? flags second
            if low ≤ high then return (⟨.range low.toNat high.toNat, 0⟩, rest) else none
  | rest => return (⟨← itemSet? flags first, 0⟩, rest)

/-- The hyphens at the start of a class. -/
def takeHyphens (flags : Flags) : Nat → List Char → Nat × List Char
  | fuel + 1, '-' :: rest =>
      let (count, rest) := takeHyphens flags fuel (skip flags rest)
      (count + 1, rest)
  | _, rest => (0, rest)

/-- The opening of a class behind `[`: whether it is negated, and the items that
only count as characters there. -/
def openClass (flags : Flags) (characters : List Char) :
    Option (Bool × List ClassPart × List Char) := do
  let rest := skip flags characters
  let (negated, rest) := match rest with
    | '^' :: rest => (true, skip flags rest)
    | rest => (false, rest)
  let (hyphens, rest) := takeHyphens flags rest.length rest
  match hyphens, rest with
  | _, [] => none
  | 0, ']' :: rest => return (negated, [⟨.single ']', 0⟩], skip flags rest)
  | count, rest => return (negated, List.replicate count ⟨.single '-', 0⟩, rest)

mutual

/-- A class behind `[`. -/
def readClass (flags : Flags) : Nat → List Char → Option (ClassPart × List Char)
  | 0, _ => none
  | fuel + 1, characters => do
      let (negated, items, rest) ← openClass flags characters
      readClassBody flags fuel negated none items rest

/-- The rest of a class up to its closing bracket. -/
def readClassBody (flags : Flags) : Nat → Bool → Option (ClassOperation × ClassPart) →
    List ClassPart → List Char → Option (ClassPart × List Char)
  | 0, _, _, _, _ => none
  | fuel + 1, negated, left, items, characters => do
      match skip flags characters with
      | [] => none
      | '[' :: rest =>
          match asciiClass? rest with
          | some (negatedName, set, rest) =>
              let set ← finishClass flags negatedName set
              readClassBody flags fuel negated left (⟨set, 0⟩ :: items) rest
          | none =>
              let (part, rest) ← readClass flags fuel rest
              readClassBody flags fuel negated left (part :: items) rest
      | ']' :: rest =>
          let whole := ClassPart.combine flags left (ClassPart.unite items)
          return (⟨← finishClass flags negated whole.set, 1 + whole.depth⟩, rest)
      | '&' :: '&' :: rest =>
          let side := ClassPart.combine flags left (ClassPart.unite items)
          readClassBody flags fuel negated (some (.inter, side)) [] rest
      | '-' :: '-' :: rest =>
          let side := ClassPart.combine flags left (ClassPart.unite items)
          readClassBody flags fuel negated (some (.diff, side)) [] rest
      | '~' :: '~' :: rest =>
          let side := ClassPart.combine flags left (ClassPart.unite items)
          readClassBody flags fuel negated (some (.symmDiff, side)) [] rest
      | rest =>
          let (part, rest) ← readClassRange flags rest
          readClassBody flags fuel negated left (part :: items) rest

end

/-- A flag of a group and its value. -/
def Flags.set? (flags : Flags) (letter : Char) (value : Bool) : Option Flags :=
  match letter with
  | 'i' => some { flags with foldCase := value }
  | 'm' => some { flags with multiLine := value }
  | 's' => some { flags with dotAll := value }
  | 'u' => some { flags with unicode := value }
  | 'R' => some { flags with crlf := value }
  | 'x' => some { flags with verbose := value }
  | 'U' => some flags
  | _ => none

/-- The flags of a group up to `:` or `)`; `seen` holds the letters so far, the
last one first, with `-` for the negation. -/
def readFlags (flags : Flags) (seen : List Char) :
    List Char → Option (Flags × List Char × List Char)
  | [] => none
  | character :: rest =>
      if character = ':' ∨ character = ')' then
        if seen.head? = some '-' then none else some (flags, seen, character :: rest)
      else if seen.contains character then none
      else if character = '-' then readFlags flags ('-' :: seen) rest
      else
        match flags.set? character (!seen.contains '-') with
        | some flags => readFlags flags (character :: seen) rest
        | none => none

/-- A character may stand in the name of a group. -/
def isNameChar (isFirst : Bool) (character : Char) : Bool :=
  character = '_' || Unicode.isAlphabetic character.toNat ||
    (!isFirst && (character = '.' || character = '[' || character = ']' ||
      (CharSet.categories [.decimalNumber, .letterNumber, .otherNumber]).contains
        character.toNat))

/-- The name of a group up to `>`. -/
def readName (characters : List Char) : Option (List Char × List Char) :=
  let name := characters.takeWhile (· != '>')
  match name, characters.dropWhile (· != '>') with
  | first :: others, '>' :: rest =>
      if isNameChar true first && others.all (isNameChar false) then some (name, rest) else none
  | _, _ => none

inductive GroupOpening where
  /-- Flags for the rest of the group around. -/
  | flags (flags : Flags)
  /-- A group that is not remembered, with its flags. -/
  | plain (flags : Flags)
  /-- A group that is remembered, perhaps under a name. -/
  | remembered (name : Option (List Char))

def readOpening (flags : Flags) (characters : List Char) : Option (GroupOpening × List Char) :=
  match skip flags characters with
  | '?' :: '=' :: _ | '?' :: '!' :: _ | '?' :: '<' :: '=' :: _ | '?' :: '<' :: '!' :: _ => none
  | '?' :: 'P' :: '<' :: rest | '?' :: '<' :: rest =>
      (readName rest).map fun (name, rest) => (.remembered (some name), rest)
  | '?' :: rest =>
      match readFlags flags [] rest with
      | some (changed, seen, ')' :: rest) =>
          if seen.isEmpty then none else some (.flags changed, rest)
      | some (changed, _, ':' :: rest) => some (.plain changed, rest)
      | _ => none
  | rest => some (.remembered none, rest)

/-- Drops the mark of a lazy repetition. -/
def dropLazy : List Char → List Char
  | '?' :: rest => rest
  | rest => rest

/-- The bounds of a counted repetition behind its brace. -/
def readBounds (flags : Flags) (characters : List Char) :
    Option (Nat × Option Nat × List Char) := do
  let finish (least : Nat) (most : Option Nat) : List Char → Option (Nat × Option Nat × List Char)
    | '\x7d' :: rest => some (least, most, dropLazy (skip flags rest))
    | _ => none
  match skip flags characters with
  | [] => none
  | characters =>
      let (least, rest) := readCount flags characters
      match rest with
      | ',' :: rest =>
          match skip flags rest with
          | '\x7d' :: rest => finish (← least) none ('\x7d' :: rest)
          | rest =>
              let (most, rest) := readCount flags rest
              let least ← least
              let most ← most
              if least ≤ most then finish least (some most) rest else none
      | rest =>
          let least ← least
          finish least (some least) rest

/-- Repeats the last part, if there is one that may be repeated. -/
def repeatLast (least : Nat) (most : Option Nat) : List Part → Option (List Part)
  | part :: parts =>
      if part.repeatable then
        some (⟨.times part.tree least most, part.depth + 1, true⟩ :: parts)
      else none
  | [] => none

/-- Parts side by side, last first, as one part. -/
def Part.concat : List Part → Part
  | [] => ⟨.empty, 0, true⟩
  | [part] => part
  | parts =>
      ⟨parts.foldl (fun tree part => .sequence part.tree tree) .empty,
        1 + (parts.map (·.depth)).foldl max 0, true⟩

/-- Alternatives, last first, as one part. -/
def Part.choice : List Part → Part
  | [] => ⟨.empty, 0, true⟩
  | [part] => part
  | part :: parts =>
      ⟨parts.foldl (fun tree part => .choice part.tree tree) part.tree,
        1 + ((part :: parts).map (·.depth)).foldl max 0, true⟩

/-- A character outside a class. -/
def literalPart (flags : Flags) (character : Char) (byteForm : Bool) : Option Part :=
  if !flags.unicode && byteForm && character.toNat ≥ 0x80 then none
  else some ⟨.one (folded flags (.single character)), 0, true⟩

/-- The part of a primitive. -/
def primitivePart (flags : Flags) : Primitive → Option Part
  | .literal character byteForm => literalPart flags character byteForm
  | .set members => some ⟨.one members, 0, true⟩
  | .look test => some ⟨.look test, 0, true⟩

/-- The part of a dot; it needs Unicode. -/
def dotPart (flags : Flags) : Option Part :=
  if !flags.unicode then none
  else
    let excluded : CharSet :=
      if flags.dotAll then .empty
      else if flags.crlf then .union (.single '\r') (.single '\n')
      else .single '\n'
    some ⟨.one (.diff .any excluded), 0, true⟩

def caretLook (flags : Flags) : Look :=
  if flags.multiLine then (if flags.crlf then .lineStartCrlf else .lineStart) else .start

def dollarLook (flags : Flags) : Look :=
  if flags.multiLine then (if flags.crlf then .lineEndCrlf else .lineEnd) else .finish

/-- Reads alternatives up to the end or to a closing parenthesis, which stays
ahead.  `branches` and `parts` hold what was read, last first. -/
def readBranches : Nat → List Part → List Part → Cursor → Option (Part × Cursor)
  | 0, _, _, _ => none
  | fuel + 1, branches, parts, cursor =>
      let flags := cursor.flags
      let continueWith (parts : List Part) (rest : List Char) : Option (Part × Cursor) :=
        readBranches fuel branches parts { cursor with rest := rest }
      match skip flags cursor.rest with
      | [] =>
          some (Part.choice (Part.concat parts :: branches), { cursor with rest := [] })
      | character :: rest =>
          match character with
          | ')' =>
              some (Part.choice (Part.concat parts :: branches),
                { cursor with rest := character :: rest })
          | '|' =>
              readBranches fuel (Part.concat parts :: branches) [] { cursor with rest := rest }
          | '(' =>
              match readOpening flags rest with
              | none => none
              | some (.flags changed, rest) =>
                  readBranches fuel branches (⟨.empty, 0, false⟩ :: parts)
                    { cursor with rest := rest, flags := changed }
              | some (opening, rest) =>
                  let inner : Option Cursor := match opening with
                    | .plain changed => some { cursor with rest := rest, flags := changed }
                    | .remembered (some name) =>
                        if cursor.names.contains name then none
                        else some { cursor with rest := rest, names := name :: cursor.names }
                    | _ => some { cursor with rest := rest }
                  match inner.bind (readBranches fuel [] []) with
                  | some (part, ⟨')' :: rest, _, names⟩) =>
                      let tree := match opening with
                        | .remembered _ => PatternTree.group part.tree
                        | _ => part.tree
                      readBranches fuel branches (⟨tree, part.depth + 1, true⟩ :: parts)
                        ⟨rest, flags, names⟩
                  | _ => none
          | '[' =>
              match readClass flags (rest.length + 1) rest with
              | some (part, rest) =>
                  continueWith (⟨.one part.set, part.depth, true⟩ :: parts) rest
              | none => none
          | '?' =>
              (repeatLast 0 (some 1) parts).bind fun parts => continueWith parts (dropLazy rest)
          | '*' => (repeatLast 0 none parts).bind fun parts => continueWith parts (dropLazy rest)
          | '+' => (repeatLast 1 none parts).bind fun parts => continueWith parts (dropLazy rest)
          | '\x7b' =>
              match readBounds flags rest with
              | some (least, most, rest) =>
                  (repeatLast least most parts).bind fun parts => continueWith parts rest
              | none => none
          | '\\' =>
              match readEscape flags rest with
              | some (primitive, rest) =>
                  (primitivePart flags primitive).bind fun part => continueWith (part :: parts) rest
              | none => none
          | '.' => (dotPart flags).bind fun part => continueWith (part :: parts) rest
          | '^' => continueWith (⟨.look (caretLook flags), 0, true⟩ :: parts) rest
          | '$' => continueWith (⟨.look (dollarLook flags), 0, true⟩ :: parts) rest
          | character =>
              (literalPart flags character false).bind fun part =>
                continueWith (part :: parts) rest

/-- The deepest nesting of a usable pattern. -/
def depthLimit : Nat := 250

/-- The tree of a pattern, unless the text is none or is too deep or too large. -/
def read? (source : String) : Option PatternTree :=
  let characters := source.toList
  match readBranches (2 * characters.length + 2) [] [] ⟨characters, {}, []⟩ with
  | some (part, ⟨[], _, _⟩) =>
      if part.depth ≤ depthLimit ∧ part.tree.isSmall then some part.tree
      else none
  | _ => none

end Gatehouse.PatternReader
