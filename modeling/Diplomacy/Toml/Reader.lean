import Diplomacy.Toml.Document
import Diplomacy.Toml.Scalar

/-!
Reading TOML text. Arrays and inline tables may be nested, and keys may be
dotted, to fewer than 80 levels.
-/

namespace Diplomacy.Toml

/-- The most levels of nested values, and the most parts of a key. -/
def maxLevels : Nat := 79

mutual

/-- A value at the start of a text. The first argument bounds the number of
parts, for which the length of the text is enough; `levels` is the number of
arrays and inline tables that may still be opened. -/
def readValue : Nat → (levels : Nat) → List Char → Option (Value × List Char)
  | 0, _, _ => none
  | fuel + 1, levels, characters =>
      match characters, levels with
      | '"' :: _, _ => (readString characters).map fun (text, rest) => (.text text, rest)
      | '\x27' :: _, _ => (readString characters).map fun (text, rest) => (.text text, rest)
      | 't' :: _, _ => (expect "true".toList characters).map (.boolean true, ·)
      | 'f' :: _, _ => (expect "false".toList characters).map (.boolean false, ·)
      | '[' :: rest, levels + 1 =>
          (readItems fuel levels rest).map fun (items, rest) => (.array items, rest)
      | '\x7b' :: rest, levels + 1 =>
          match skipBlanks rest with
          | '\x7d' :: rest => some (.table .inline [], rest)
          | rest => do
              let (pairs, rest) ← readPairs fuel levels rest
              let entries ← Entries.assignAll [] pairs
              return (.table .inline entries, rest)
      | '[' :: _, 0 => none
      | '\x7b' :: _, 0 => none
      | _, _ => readScalar characters

/-- The items of an array up to its closing bracket; a comma may follow the last one. -/
def readItems : Nat → (levels : Nat) → List Char → Option (List Value × List Char)
  | 0, _, _ => none
  | fuel + 1, levels, characters => do
      match ← skipFiller false characters with
      | ']' :: rest => return ([], rest)
      | rest =>
          let (item, rest) ← readValue fuel levels rest
          match ← skipFiller false rest with
          | ']' :: rest => return ([item], rest)
          | ',' :: rest =>
              let (items, rest) ← readItems fuel levels rest
              return (item :: items, rest)
          | _ => none

/-- The entries of an inline table that has any, up to its closing brace. -/
def readPairs : Nat → (levels : Nat) → List Char →
    Option (List (List String × Value) × List Char)
  | 0, _, _ => none
  | fuel + 1, levels, characters => do
      let (key, rest) ← readKey maxLevels characters
      let rest ← expect ['='] rest
      let (value, rest) ← readValue fuel levels (skipBlanks rest)
      match skipBlanks rest with
      | '\x7d' :: rest => return ([(key, value)], rest)
      | ',' :: rest =>
          let (pairs, rest) ← readPairs fuel levels rest
          return ((key, value) :: pairs, rest)
      | _ => none

end

def readEntry (characters : List Char) : Option (Line × List Char) := do
  let (key, rest) ← readKey maxLevels characters
  let rest ← expect ['='] rest
  let (value, rest) ← readValue (rest.length + 1) maxLevels (skipBlanks rest)
  return (.entry key value, ← endLine rest)

/-- A line with a header, after its first bracket. -/
def readHeader : List Char → Option (Line × List Char)
  | '[' :: rest => do
      let (path, rest) ← readKey maxLevels rest
      return (.element path, ← endLine (← expect "]]".toList rest))
  | rest => do
      let (path, rest) ← readKey maxLevels rest
      return (.table path, ← endLine (← expect [']'] rest))

/-- The lines of a text, of which there are no more than the first argument. -/
def readLines : Nat → List Char → Option (List Line)
  | 0, _ => none
  | fuel + 1, characters =>
      match skipBlanks characters with
      | [] => some []
      | '\n' :: rest => readLines fuel rest
      | '#' :: rest => (endLine ('#' :: rest)).bind (readLines fuel)
      | '[' :: rest => do
          let (line, rest) ← readHeader rest
          return line :: (← readLines fuel rest)
      | rest => do
          let (line, rest) ← readEntry rest
          return line :: (← readLines fuel rest)

/-- The text after a byte order mark, if it starts with one. -/
def skipOrderMark : List Char → List Char
  | '\ufeff' :: rest => rest
  | rest => rest

def parse? (text : String) : Option Entries := do
  let characters := normalizeLines (skipOrderMark text.toList)
  ofLines (← readLines (characters.length + 1) characters)

end Diplomacy.Toml
