import Diplomacy.Json.Value
import Diplomacy.Text.Hexadecimal

/-!
Reading JSON text. Every reader takes the characters still to be read and gives
what it read with the rest, or nothing if the text does not go on as it must.
-/

namespace Diplomacy.Json

def isBlank (character : Char) : Bool :=
  character = ' ' || character = '\n' || character = '\t' || character = '\r'

def skipBlanks (characters : List Char) : List Char := characters.dropWhile isBlank

def expect (beginning characters : List Char) : Option (List Char) :=
  if beginning.isPrefixOf characters then some (characters.drop beginning.length) else none

/-! ## Strings -/

/-- A part of a string: a character, or a number escaped by four digits. -/
inductive Piece where
  | character (value : Char)
  | unit (value : Nat)
deriving DecidableEq

/-- Whether a number is the first half of a surrogate pair. -/
def isHighSurrogate (unit : Nat) : Bool := 0xD800 ≤ unit && unit < 0xDC00

/-- Whether a number is the second half of a surrogate pair. -/
def isLowSurrogate (unit : Nat) : Bool := 0xDC00 ≤ unit && unit < 0xE000

/-- The characters that the parts of a string stand for, each surrogate pair
giving one, or `none` if a half stands alone. -/
def assemble : List Piece → Option (List Char)
  | [] => some []
  | .character value :: pieces => (assemble pieces).map (value :: ·)
  | .unit high :: .unit low :: pieces =>
      if isHighSurrogate high then
        if isLowSurrogate low then
          let point := 0x10000 + (high - 0xD800) * 0x400 + (low - 0xDC00)
          (assemble pieces).map (Char.ofNat point :: ·)
        else none
      else if isLowSurrogate high then none
      else (assemble (.unit low :: pieces)).map (Char.ofNat high :: ·)
  | .unit single :: pieces =>
      if isHighSurrogate single || isLowSurrogate single then none
      else (assemble pieces).map (Char.ofNat single :: ·)

/-- The character that a letter stands for after a backslash. -/
def escaped? : Char → Option Char
  | '"' => some '"'
  | '\\' => some '\\'
  | '/' => some '/'
  | 'b' => some '\x08'
  | 'f' => some '\x0c'
  | 'n' => some '\n'
  | 'r' => some '\r'
  | 't' => some '\t'
  | _ => none

/-- The parts of a string up to its closing quote. Control characters must be escaped. -/
def readPieces : List Char → Option (List Piece × List Char)
  | [] => none
  | '"' :: rest => some ([], rest)
  | '\\' :: rest =>
      match rest with
      | 'u' :: a :: b :: c :: d :: rest => do
          let digits ← Hexadecimal.digits? [a, b, c, d]
          let (pieces, rest) ← readPieces rest
          return (.unit (digits.foldl (fun value digit => value * 16 + digit) 0) :: pieces, rest)
      | letter :: rest => do
          let value ← escaped? letter
          let (pieces, rest) ← readPieces rest
          return (.character value :: pieces, rest)
      | [] => none
  | character :: rest =>
      if character.toNat < 0x20 then none
      else do
        let (pieces, rest) ← readPieces rest
        return (.character character :: pieces, rest)

def readText (characters : List Char) : Option (Text × List Char) :=
  (readPieces characters).map fun (pieces, rest) => ((assemble pieces).map String.ofList, rest)

/-! ## Numbers -/

def decimal (digits : List Char) : Nat :=
  digits.foldl (fun value digit => value * 10 + (digit.toNat - 48)) 0

/-- The digits that a text starts with, at least one, and the rest. -/
def readDigits (characters : List Char) : Option (List Char × List Char) :=
  let digits := characters.takeWhile Char.isDigit
  if digits.isEmpty then none else some (digits, characters.dropWhile Char.isDigit)

/-- The digits of a whole number, which does not start with a superfluous zero. -/
def readWhole (characters : List Char) : Option (List Char × List Char) := do
  let (digits, rest) ← readDigits characters
  if digits.head? = some '0' && 1 < digits.length then none else return (digits, rest)

/-- The text after a fraction, if one follows; tells whether one did. -/
def skipFraction : List Char → Option (Bool × List Char)
  | '.' :: rest => (readDigits rest).map fun (_, rest) => (true, rest)
  | rest => some (false, rest)

/-- The text after an exponent, if one follows; tells whether one did. -/
def skipExponent : List Char → Option (Bool × List Char)
  | letter :: rest =>
      if letter = 'e' || letter = 'E' then
        let unsigned :=
          match rest with
          | '+' :: rest => rest
          | '-' :: rest => rest
          | rest => rest
        (readDigits unsigned).map fun (_, rest) => (true, rest)
      else some (false, letter :: rest)
  | [] => some (false, [])

def readUnsigned (characters : List Char) : Option (Value × List Char) := do
  let (digits, rest) ← readWhole characters
  let (hasFraction, rest) ← skipFraction rest
  let (hasExponent, rest) ← skipExponent rest
  return (if hasFraction || hasExponent then .otherNumber else .natural (decimal digits), rest)

def readNumber : List Char → Option (Value × List Char)
  | '-' :: rest => (readUnsigned rest).map fun (_, rest) => (.otherNumber, rest)
  | characters => readUnsigned characters

/-! ## Values -/

mutual

/-- A value at the start of a text. The first argument bounds the nesting and
the number of parts; the length of the text is always enough. -/
def readValue : Nat → List Char → Option (Value × List Char)
  | 0, _ => none
  | fuel + 1, characters =>
      match characters with
      | 'n' :: _ => (expect "null".toList characters).map (.null, ·)
      | 't' :: _ => (expect "true".toList characters).map (.bool true, ·)
      | 'f' :: _ => (expect "false".toList characters).map (.bool false, ·)
      | '"' :: rest => (readText rest).map fun (text, rest) => (.string text, rest)
      | '[' :: rest =>
          match skipBlanks rest with
          | ']' :: rest => some (.array [], rest)
          | rest => (readItems fuel rest).map fun (items, rest) => (.array items, rest)
      | '\x7b' :: rest =>
          match skipBlanks rest with
          | '\x7d' :: rest => some (.object [], rest)
          | rest => (readMembers fuel rest).map fun (members, rest) => (.object members, rest)
      | _ => readNumber characters

/-- The items of an array that has any, up to its closing bracket. -/
def readItems : Nat → List Char → Option (List Value × List Char)
  | 0, _ => none
  | fuel + 1, characters => do
      let (item, rest) ← readValue fuel characters
      match skipBlanks rest with
      | ']' :: rest => return ([item], rest)
      | ',' :: rest => do
          let (items, rest) ← readItems fuel (skipBlanks rest)
          return (item :: items, rest)
      | _ => none

/-- The members of an object that has any, up to its closing brace. -/
def readMembers : Nat → List Char → Option (List (Text × Value) × List Char)
  | 0, _ => none
  | fuel + 1, characters => do
      let rest ← expect ['"'] characters
      let (name, rest) ← readText rest
      let rest ← expect [':'] (skipBlanks rest)
      let (value, rest) ← readValue fuel (skipBlanks rest)
      match skipBlanks rest with
      | '\x7d' :: rest => return ([(name, value)], rest)
      | ',' :: rest => do
          let (members, rest) ← readMembers fuel (skipBlanks rest)
          return ((name, value) :: members, rest)
      | _ => none

end

def parse? (text : String) : Option Value := do
  let characters := text.toList
  let (value, rest) ← readValue (characters.length + 1) (skipBlanks characters)
  if (skipBlanks rest).isEmpty then return value else none

end Diplomacy.Json
