import Diplomacy.Text.Hexadecimal

/-!
The parts of a TOML text below its values: blanks, comments, line ends, strings
and keys. Readers take the characters still to be read and give what they read
with the rest. Lines may end in a line feed alone or after a carriage return;
the readers see line feeds only, and refuse any other carriage return.
-/

namespace Diplomacy.Toml

/-- The text with every line ending in a line feed alone. -/
def normalizeLines : List Char → List Char
  | '\r' :: '\n' :: rest => '\n' :: normalizeLines rest
  | character :: rest => character :: normalizeLines rest
  | [] => []

/-- Whether a character may stand between the tokens of a line. -/
def isBlank (character : Char) : Bool := character = ' ' || character = '\t'

/-- Whether a character may stand in comments and strings: a tab, or no control character. -/
def isPlain (character : Char) : Bool :=
  character = '\t' || (0x20 ≤ character.toNat && character.toNat ≠ 0x7F)

def skipBlanks (characters : List Char) : List Char := characters.dropWhile isBlank

def expect (beginning characters : List Char) : Option (List Char) :=
  if beginning.isPrefixOf characters then some (characters.drop beginning.length) else none

/-- The text after the rest of a line: blanks and perhaps a comment, up to the
line end or the end of the text. -/
def endLine (characters : List Char) : Option (List Char) :=
  let rest :=
    match skipBlanks characters with
    | '#' :: rest => rest.dropWhile isPlain
    | rest => rest
  match rest with
  | [] => some []
  | '\n' :: rest => some rest
  | _ => none

/-- The text after blanks, line ends and comments, as they may stand inside an
array. A comment ends with its line. -/
def skipFiller (inComment : Bool) : List Char → Option (List Char)
  | [] => if inComment then none else some []
  | character :: rest =>
      if character = '\n' then skipFiller false rest
      else if inComment then if isPlain character then skipFiller true rest else none
      else if isBlank character then skipFiller false rest
      else if character = '#' then skipFiller true rest
      else some (character :: rest)

/-! ## Strings -/

/-- What the next character of an escaped string belongs to. -/
inductive Mode where
  | plain
  /-- After a backslash. -/
  | escape
  /-- Inside a character number, of which some digits are missing. -/
  | number (missing : Nat) (value : Nat)
  /-- After a backslash and blanks, which must end the line. -/
  | folding
  /-- After a backslash at a line's end: blanks and line ends are dropped. -/
  | folded
deriving DecidableEq, Repr

/-- The character that a letter stands for after a backslash. -/
def escaped? : Char → Option Char
  | 'b' => some '\x08'
  | 't' => some '\t'
  | 'n' => some '\n'
  | 'f' => some '\x0c'
  | 'r' => some '\r'
  | '"' => some '"'
  | '\\' => some '\\'
  | _ => none

/-- The character with a number, unless the number is half of a surrogate pair
or too large. -/
def scalar? (point : Nat) : Option Char :=
  if point < 0xD800 ∨ (0xE000 ≤ point ∧ point < 0x110000) then some (Char.ofNat point) else none

/-- What a run of quotes does after its first quote, if it closes a string of
several lines: up to two quotes before the closing three belong to the string. -/
def closing? (quote : Char) : List Char → Option (List Char × List Char)
  | second :: third :: rest =>
      if second = quote ∧ third = quote then
        match rest with
        | fourth :: fifth :: rest =>
            if fourth = quote then
              if fifth = quote then some ([quote, quote], rest) else some ([quote], fifth :: rest)
            else some ([], fourth :: fifth :: rest)
        | [fourth] => if fourth = quote then some ([quote], []) else some ([], [fourth])
        | [] => some ([], [])
      else none
  | _ => none

/-- The characters of an escaped string up to its closing quotes. -/
def readBasic (multiline : Bool) : Mode → List Char → Option (List Char × List Char)
  | _, [] => none
  | .escape, character :: rest =>
      match escaped? character with
      | some value =>
          (readBasic multiline .plain rest).map fun (text, rest) => (value :: text, rest)
      | none =>
          if character = 'u' then readBasic multiline (.number 4 0) rest
          else if character = 'U' then readBasic multiline (.number 8 0) rest
          else if multiline && isBlank character then readBasic multiline .folding rest
          else if multiline && character = '\n' then readBasic multiline .folded rest
          else none
  | .number missing value, character :: rest =>
      match Hexadecimal.digit? character with
      | none => none
      | some digit =>
          let value := value * 16 + digit
          if missing ≤ 1 then
            match scalar? value with
            | some scalar =>
                (readBasic multiline .plain rest).map fun (text, rest) => (scalar :: text, rest)
            | none => none
          else readBasic multiline (.number (missing - 1) value) rest
  | .folding, character :: rest =>
      if isBlank character then readBasic multiline .folding rest
      else if character = '\n' then readBasic multiline .folded rest
      else none
  | mode, character :: rest =>
      if mode = .folded && (isBlank character || character = '\n') then
        readBasic multiline .folded rest
      else if character = '\\' then readBasic multiline .escape rest
      else if character = '"' then
        if multiline then
          match closing? '"' rest with
          | some closed => some closed
          | none =>
              (readBasic multiline .plain rest).map fun (text, rest) => (character :: text, rest)
        else some ([], rest)
      else if isPlain character || (multiline && character = '\n') then
        (readBasic multiline .plain rest).map fun (text, rest) => (character :: text, rest)
      else none

/-- The characters of an unescaped string up to its closing quotes. -/
def readLiteral (multiline : Bool) : List Char → Option (List Char × List Char)
  | [] => none
  | character :: rest =>
      if character = '\x27' then
        if multiline then
          match closing? '\x27' rest with
          | some closed => some closed
          | none => (readLiteral multiline rest).map fun (text, rest) => (character :: text, rest)
        else some ([], rest)
      else if isPlain character || (multiline && character = '\n') then
        (readLiteral multiline rest).map fun (text, rest) => (character :: text, rest)
      else none

/-- The text after a line end that directly follows opening quotes. -/
def dropLineEnd : List Char → List Char
  | '\n' :: rest => rest
  | rest => rest

def readLineString : List Char → Option (String × List Char)
  | '"' :: rest => (readBasic false .plain rest).map fun (text, rest) => (String.ofList text, rest)
  | '\x27' :: rest => (readLiteral false rest).map fun (text, rest) => (String.ofList text, rest)
  | _ => none

def readString : List Char → Option (String × List Char)
  | '"' :: '"' :: '"' :: rest =>
      (readBasic true .plain (dropLineEnd rest)).map fun (text, rest) =>
        (String.ofList text, rest)
  | '\x27' :: '\x27' :: '\x27' :: rest =>
      (readLiteral true (dropLineEnd rest)).map fun (text, rest) => (String.ofList text, rest)
  | characters => readLineString characters

/-! ## Keys -/

/-- Whether a character may stand in a key without quotes. -/
def isBare (character : Char) : Bool :=
  character.isAlphanum || character = '_' || character = '-'

def readKeyPart (characters : List Char) : Option (String × List Char) :=
  match characters with
  | '"' :: _ => readLineString characters
  | '\x27' :: _ => readLineString characters
  | _ =>
      let bare := characters.takeWhile isBare
      if bare.isEmpty then none
      else some (String.ofList bare, characters.dropWhile isBare)

/-- The parts of a key of at most the given number of parts, and the text after
the blanks that follow it. -/
def readKey : (limit : Nat) → List Char → Option (List String × List Char)
  | 0, _ => none
  | limit + 1, characters => do
      let (part, rest) ← readKeyPart (skipBlanks characters)
      match skipBlanks rest with
      | '.' :: rest => do
          let (parts, rest) ← readKey limit rest
          return (part :: parts, rest)
      | rest => return ([part], rest)

end Diplomacy.Toml
