import Diplomacy.Text.Alphanumeric
import Diplomacy.Text.Blank

/-!
Filters for log records: directives separated by commas. A directive is a level,
a target, or a target and a level joined by an equals sign.
-/

namespace Diplomacy.LogFilter

/-- The levels of log records, and none at all. -/
inductive Level where
  | off
  | error
  | warn
  | info
  | debug
  | trace
deriving DecidableEq, Repr

/-- One directive. Without a target it is for every record; without a level it
lets every level pass. -/
structure Directive where
  target : Option String
  level : Level
deriving DecidableEq, Repr

/-- The level with a name in any case. -/
def Level.ofName? (name : String) : Option Level :=
  match name.toLower with
  | "off" => some .off
  | "error" => some .error
  | "warn" => some .warn
  | "info" => some .info
  | "debug" => some .debug
  | "trace" => some .trace
  | _ => none

/-- The level with a number, from none at all to everything. -/
def Level.ofNumber? : Nat → Option Level
  | 0 => some .off
  | 1 => some .error
  | 2 => some .warn
  | 3 => some .info
  | 4 => some .debug
  | 5 => some .trace
  | _ => none

/-- The number that decimal digits stand for, perhaps after a plus sign. -/
def number? (characters : List Char) : Option Nat :=
  let digits :=
    match characters with
    | '+' :: digits => digits
    | digits => digits
  if digits.isEmpty || !digits.all Char.isDigit then none
  else some (digits.foldl (fun value digit => value * 10 + (digit.toNat - 48)) 0)

def Level.parse? (characters : List Char) : Option Level :=
  ((number? characters).bind ofNumber?) <|> ofName? (String.ofList characters)

/-- Whether a directive may start with a character. -/
def isStart (character : Char) : Bool :=
  Alphanumeric.isAlphanumeric character || character = '-' || character = ':' || character = '_'

/-- A directive. Blanks may surround a level or target that stands alone, but
not a target with a level. -/
def Directive.parse? (characters : List Char) : Option Directive :=
  let trimmed := Blank.trim characters
  let target := trimmed.takeWhile (· ≠ '=')
  if !trimmed.head?.any isStart || target.contains '[' then none
  else
    match trimmed.dropWhile (· ≠ '=') with
    | [] =>
        match Level.parse? characters with
        | some level => some { target := none, level }
        | none => some { target := some (String.ofList characters), level := .trace }
    | _ :: level =>
        if trimmed.length ≠ characters.length then none
        else if level.isEmpty then some { target := some (String.ofList target), level := .trace }
        else (Level.parse? level).map fun level => { target := some (String.ofList target), level }

def split : List Char → List (List Char)
  | [] => [[]]
  | character :: rest =>
      if character = ',' then [] :: split rest
      else
        match split rest with
        | first :: parts => (character :: first) :: parts
        | [] => [[character]]

/-- The directives of a filter; empty ones are passed over. -/
def parse? (filter : String) : Option (List Directive) :=
  ((split filter.toList).filter fun part => !part.isEmpty).mapM Directive.parse?

inductive InitError where
  | malformed
  /-- A filter is in effect already, and cannot be replaced. -/
  | alreadySet
deriving DecidableEq, Repr

/-- Put a filter into effect; `current` is the one in effect. -/
def init (current : Option (List Directive)) (filter : String) :
    Except InitError (List Directive) :=
  match parse? filter, current with
  | none, _ => .error .malformed
  | some _, some _ => .error .alreadySet
  | some directives, none => .ok directives

end Diplomacy.LogFilter
