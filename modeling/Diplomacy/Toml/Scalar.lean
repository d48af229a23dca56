import Diplomacy.Toml.Lexeme
import Diplomacy.Toml.Value

/-!
Numbers and moments in time as they are written in TOML.
-/

namespace Diplomacy.Toml

/-! ## Numbers -/

/-- Digits, between any two of which one underscore may stand, and the rest.
`needed` tells whether a digit must come next. -/
def readRun (isDigit : Char → Bool) : (needed : Bool) → List Char → Option (List Char × List Char)
  | needed, [] => if needed then none else some ([], [])
  | needed, character :: rest =>
      if isDigit character then
        (readRun isDigit false rest).map fun (digits, rest) => (character :: digits, rest)
      else if needed then none
      else if character = '_' then readRun isDigit true rest
      else some ([], character :: rest)

def valueOf (radix : Nat) (digits : List Char) : Nat :=
  digits.foldl (fun value digit => value * radix + (Hexadecimal.digit? digit).getD 0) 0

/-- The integer with a sign and a size, if it fits 64 bits. -/
def integer? (negative : Bool) (size : Nat) : Option Value :=
  let value : Int := if negative then -size else size
  if -0x8000_0000_0000_0000 ≤ value ∧ value < 0x8000_0000_0000_0000 then some (.integer value)
  else none

/-- An integer in a radix that its beginning has announced. -/
def readRadix (radix : Nat) (characters : List Char) : Option (Value × List Char) := do
  let isDigit (character : Char) := (Hexadecimal.digit? character).any (· < radix)
  let (digits, rest) ← readRun isDigit true characters
  let value ← integer? false (valueOf radix digits)
  return (value, rest)

/-- A sign, if there is one; tells whether it is negative. -/
def readSign : List Char → Bool × List Char
  | '+' :: rest => (false, rest)
  | '-' :: rest => (true, rest)
  | rest => (false, rest)

/-- The digits of a whole decimal number: a zero alone, or digits that do not start with one. -/
def readWhole : List Char → Option (List Char × List Char)
  | '0' :: rest => some (['0'], rest)
  | characters => readRun Char.isDigit true characters

/-- Whether `mantissa * 10 ^ exponent` is too large for a floating point number
of 64 bits, which rounds to infinity from `2 ^ 1024 - 2 ^ 970` on. The power is
computed only where the number of digits leaves the answer open. -/
def overflows (mantissa : Nat) (exponent : Int) : Bool :=
  let magnitude := (Nat.toDigits 10 mantissa).length + exponent
  let bound := Nat.pow 2 1024 - Nat.pow 2 970
  if mantissa = 0 ∨ magnitude ≤ 308 then false
  else if 310 ≤ magnitude then true
  else if 0 ≤ exponent then bound ≤ mantissa * Nat.pow 10 exponent.toNat
  else bound * Nat.pow 10 (-exponent).toNat ≤ mantissa

/-- The digits of a fraction, none if there is no point. -/
def readFraction : List Char → Option (Option (List Char) × List Char)
  | '.' :: rest =>
      (readRun Char.isDigit true rest).map fun (digits, rest) => (some digits, rest)
  | rest => some (none, rest)

def readExponent : List Char → Option (Option Int × List Char)
  | letter :: rest =>
      if letter = 'e' || letter = 'E' then do
        let (negative, rest) := readSign rest
        let (digits, rest) ← readRun Char.isDigit true rest
        let size : Int := valueOf 10 digits
        return (some (if negative then -size else size), rest)
      else some (none, letter :: rest)
  | [] => some (none, [])

/-- A decimal number. A floating point number may be too small, but positive
ones may not be too large. -/
def readDecimal (negative : Bool) (characters : List Char) : Option (Value × List Char) := do
  let (whole, rest) ← readWhole characters
  let (fraction, rest) ← readFraction rest
  let (exponent, rest) ← readExponent rest
  if fraction.isNone && exponent.isNone then
    let value ← integer? negative (valueOf 10 whole)
    return (value, rest)
  else
    let digits := fraction.getD []
    let scale := exponent.getD 0 - digits.length
    if !negative && overflows (valueOf 10 (whole ++ digits)) scale then none
    else return (.float, rest)

def readNumber (characters : List Char) : Option (Value × List Char) :=
  match characters with
  | '0' :: 'x' :: rest => readRadix 16 rest
  | '0' :: 'o' :: rest => readRadix 8 rest
  | '0' :: 'b' :: rest => readRadix 2 rest
  | _ =>
      let (negative, unsigned) := readSign characters
      match expect "inf".toList unsigned <|> expect "nan".toList unsigned with
      | some rest => some (.float, rest)
      | none => readDecimal negative unsigned

/-! ## Moments in time -/

/-- A number of exactly `count` digits. -/
def readCount (count : Nat) (characters : List Char) : Option (Nat × List Char) :=
  let digits := characters.take count
  if digits.length = count ∧ digits.all Char.isDigit then
    some (valueOf 10 digits, characters.drop count)
  else none

def readPart (low high : Nat) (characters : List Char) : Option (Nat × List Char) :=
  (readCount 2 characters).filter fun (value, _) => low ≤ value ∧ value ≤ high

def daysIn (year month : Nat) : Nat :=
  if month = 2 then
    if year % 4 = 0 ∧ (year % 100 ≠ 0 ∨ year % 400 = 0) then 29 else 28
  else if month ∈ [4, 6, 9, 11] then 30
  else 31

def skipDate (characters : List Char) : Option (List Char) := do
  let (year, rest) ← readCount 4 characters
  let (month, rest) ← readPart 1 12 (← expect ['-'] rest)
  let (_, rest) ← readPart 1 (daysIn year month) (← expect ['-'] rest)
  return rest

/-- The text after a time of day. A minute may have a leap second. -/
def skipTime (characters : List Char) : Option (List Char) := do
  let (_, rest) ← readPart 0 23 characters
  let (_, rest) ← readPart 0 59 (← expect [':'] rest)
  let (_, rest) ← readPart 0 60 (← expect [':'] rest)
  match rest with
  | '.' :: fraction =>
      if (fraction.takeWhile Char.isDigit).isEmpty then return rest
      else return fraction.dropWhile Char.isDigit
  | rest => return rest

/-- The text after a difference from universal time, if one follows. -/
def skipOffset (characters : List Char) : List Char :=
  match characters with
  | 'Z' :: rest => rest
  | 'z' :: rest => rest
  | sign :: rest =>
      if sign = '+' || sign = '-' then
        let difference := do
          let (_, rest) ← readPart 0 23 rest
          let (_, rest) ← readPart 0 59 (← expect [':'] rest)
          return rest
        difference.getD characters
      else characters
  | [] => []

def skipTimeOfDate (characters : List Char) : List Char :=
  match characters with
  | delimiter :: rest =>
      if delimiter = 'T' || delimiter = 't' || delimiter = ' ' then
        ((skipTime rest).map skipOffset).getD characters
      else characters
  | [] => []

def startsDate (characters : List Char) : Bool :=
  ((readCount 4 characters).bind fun (_, rest) => expect ['-'] rest).isSome

def startsTime (characters : List Char) : Bool :=
  ((readCount 2 characters).bind fun (_, rest) => expect [':'] rest).isSome

def readScalar (characters : List Char) : Option (Value × List Char) :=
  if startsDate characters then
    (skipDate characters).map fun rest => (.moment, skipTimeOfDate rest)
  else if startsTime characters then (skipTime characters).map fun rest => (.moment, rest)
  else readNumber characters

end Diplomacy.Toml
