import Gatehouse.Settings.Environment
import Gatehouse.Text.Blank
import Gatehouse.Unicode.Category

/-!
# Files of variables

A file of `NAME=value` lines that adds to an environment.  What is set before
the file is read stays, and of one name the first line counts.  Values may be
quoted, quoted values may go over several lines, and `$NAME` stands for a
variable of the environment or of an earlier line.  The first line that makes
no sense ends the reading; what was read before it counts.
-/

namespace Gatehouse.EnvFile

/-- Where a line stands with its quotes. -/
inductive QuoteState where
  | plain
  | escape
  | single
  | singleEscape
  | double
  | doubleEscape
  | blank
  | comment
  deriving DecidableEq, Repr

namespace QuoteState

/-- What a character opens where nothing is open. -/
def opening (character : Char) : QuoteState :=
  if character = '\\' then .escape
  else if character = '"' then .double
  else if character = '\x27' then .single
  else .plain

/-- The state behind a character; a comment starts behind a blank only. -/
def next (state : QuoteState) (character : Char) : QuoteState :=
  match state with
  | .blank => if character = '#' then .comment else opening character
  | .escape => .plain
  | .plain =>
      if Text.isBlank character && character != '\n' && character != '\r' then .blank
      else opening character
  | .double =>
      if character = '\\' then .doubleEscape else if character = '"' then .plain else .double
  | .doubleEscape => .double
  | .single =>
      if character = '\\' then .singleEscape else if character = '\x27' then .plain else .single
  | .singleEscape => .single
  | .comment => .comment

end QuoteState

/-- The characters of a line before a comment, and the state behind them. -/
def scan : QuoteState → List Char → List Char × QuoteState
  | state, [] => ([], state)
  | state, character :: rest =>
      let next := state.next character
      if next = .comment then ([], .comment)
      else
        let (kept, last) := scan next rest
        (character :: kept, last)

def withoutEnding (line : List Char) : List Char :=
  match line.reverse with
  | '\n' :: '\r' :: rest => rest.reverse
  | '\n' :: rest => rest.reverse
  | _ => line

/-- The logical lines of written lines; `pending` is a line that goes on.  A
line that is no text and a last line that goes on end the list. -/
def logicalLines (pending : List Char) (state : QuoteState) :
    List (Option (List Char)) → List (List Char)
  | [] => []
  | none :: _ => []
  | some line :: rest =>
      let whole := pending ++ line
      if (Text.trimStartChars whole).head? = some '#' then
        [] :: logicalLines [] .plain rest
      else
        match scan state line with
        | (_, .plain) => withoutEnding whole :: logicalLines [] .plain rest
        | (kept, .comment) => (pending ++ kept) :: logicalLines [] .plain rest
        | (_, last) => logicalLines whole last rest

/-- The written lines of a file, with their endings. -/
def writtenLines : List UInt8 → List (List UInt8)
  | [] => []
  | byte :: rest =>
      match byte == 0x0A, writtenLines rest with
      | true, lines => [byte] :: lines
      | false, [] => [[byte]]
      | false, line :: lines => (byte :: line) :: lines

/-- A file without the mark that says it is UTF-8. -/
def withoutMark : List UInt8 → List UInt8
  | 0xEF :: 0xBB :: 0xBF :: rest => rest
  | bytes => bytes

def linesOf (bytes : ByteArray) : List (List Char) :=
  logicalLines [] .plain ((writtenLines (withoutMark bytes.data.toList)).map fun line =>
    (Text.decode? ⟨line.toArray⟩).map String.toList)

/-- Where the reading of a value stands. -/
structure ValueState where
  /-- The value so far, last character first. -/
  output : List Char := []
  /-- A single quote is open. -/
  single : Bool := false
  /-- A double quote is open. -/
  double : Bool := false
  /-- A backslash stands before the next character. -/
  escaped : Bool := false
  /-- The value has ended. -/
  ended : Bool := false
  /-- The name of a variable that is being read, last character first, and whether it is in
  braces. -/
  reference : Option (Bool × List Char) := none

namespace ValueState

def push (state : ValueState) (character : Char) : ValueState :=
  { state with output := character :: state.output }

/-- Puts the value of a variable in place of its name. -/
def substitute (state : ValueState) (lookup : String → Option String) (name : List Char) :
    ValueState :=
  { state with
    output := ((lookup (.ofList name.reverse)).getD "").toList.reverse ++ state.output
    reference := none }

/-- What a character stands for behind a backslash. -/
def escapedChar? (character : Char) : Option Char :=
  if character = '\\' ∨ character = '\x27' ∨ character = '"' ∨ character = '$' ∨
      character = ' ' then some character
  else if character = 'n' then some '\n'
  else none

/-- A letter or digit of any script. -/
def isNameChar (character : Char) : Bool :=
  Unicode.isAlphabetic character.toNat ||
    [Unicode.Category.decimalNumber, .letterNumber, .otherNumber].any fun category =>
      category.contains character.toNat

/-- Reads a character while the name of a variable is being read. -/
def stepReference (state : ValueState) (lookup : String → Option String) (braced : Bool)
    (name : List Char) (character : Char) : ValueState :=
  if isNameChar character then { state with reference := some (braced, character :: name) }
  else if braced then
    if character = '\x7d' then state.substitute lookup name
    else { state with reference := some (true, character :: name) }
  else if character = '\x7b' && name.isEmpty then { state with reference := some (true, []) }
  else if character = '$' then
    { state.substitute lookup name with reference := some (false, []) }
  else (state.substitute lookup name).push character

/-- Reads a character where no name and no escape is open. -/
def stepPlain (state : ValueState) (character : Char) : ValueState :=
  if character = '$' then { state with reference := some (false, []) }
  else if character = '\\' then { state with escaped := true }
  else if state.double then
    if character = '"' then { state with double := false } else state.push character
  else if character = '\x27' then { state with single := true }
  else if character = '"' then { state with double := true }
  else if character = ' ' ∨ character = '\t' then { state with ended := true }
  else state.push character

/-- Reads a value to its end; what follows it may only be blanks and a comment. -/
def read (lookup : String → Option String) : ValueState → List Char → Option String
  | state, [] =>
      match state.reference with
      | some (true, _) => none
      | some (false, name) =>
          if state.single || state.double then none
          else some (.ofList (state.substitute lookup name).output.reverse)
      | none =>
          if state.single || state.double then none else some (.ofList state.output.reverse)
  | state, character :: rest =>
      if state.ended then
        if character = ' ' ∨ character = '\t' then read lookup state rest
        else if character = '#' then read lookup state []
        else none
      else if state.escaped then
        (escapedChar? character).bind fun meant =>
          read lookup { state.push meant with escaped := false } rest
      else if state.single then
        if character = '\x27' then read lookup { state with single := false } rest
        else read lookup (state.push character) rest
      else
        match state.reference with
        | some (braced, name) =>
            read lookup (state.stepReference lookup braced name character) rest
        | none => read lookup (state.stepPlain character) rest

end ValueState

/-- The name at the start of a line, and what follows it. -/
def readName : List Char → Option (String × List Char)
  | [] => none
  | first :: rest =>
      let continues (character : Char) : Bool :=
        character.isAlphanum || character = '_' || character = '.'
      if first.isAlpha || first = '_' then
        some (.ofList (first :: rest.takeWhile continues), rest.dropWhile continues)
      else none

/-- The name of a line and what follows its equals sign; `export` may stand in front. -/
def readTarget (line : List Char) : Option (String × List Char) := do
  let (name, rest) ← readName line
  match Text.trimStartChars rest with
  | '=' :: rest => return (name, Text.trimStartChars rest)
  | rest =>
      if name = "export" then
        let (name, rest) ← readName rest
        match Text.trimStartChars rest with
        | '=' :: rest => return (name, Text.trimStartChars rest)
        | _ => none
      else none

/-- What a logical line says. -/
inductive Assignment where
  | blank
  | value (name value : String)
  | malformed
  deriving DecidableEq, Repr

def readLine (lookup : String → Option String) (line : List Char) : Assignment :=
  let body := Text.trimChars line
  if body.isEmpty || body.head? == some '#' then .blank
  else
    match readTarget body with
    | none => .malformed
    | some (name, value) =>
        if value.isEmpty || value.head? == some '#' then .value name ""
        else
          match ValueState.read lookup {} value with
          | some text => .value name text
          | none => .malformed

/-- Adds the variables of logical lines to an environment; `earlier` holds those of
the lines before. -/
def addLines (environment : Environment) (earlier : List (String × String)) :
    List (List Char) → Environment
  | [] => environment
  | line :: rest =>
      let lookup (name : String) : Option String :=
        (environment.text? name).orElse fun _ => earlier.lookup name
      match readLine lookup line with
      | .malformed => environment
      | .blank => addLines environment earlier rest
      | .value name value =>
          let extended :=
            if (environment.text? name).isSome then environment else environment.set name value
          addLines extended ((name, value) :: earlier) rest

/-- Adds the variables of a file to an environment. -/
def addTo (environment : Environment) (bytes : ByteArray) : Environment :=
  addLines environment [] (linesOf bytes)

end Gatehouse.EnvFile
