import Diplomacy.Identifier.Basic
import Diplomacy.Numeral
import Diplomacy.Text.Hexadecimal

/-!
The text of an identifier. It is written as 32 lower-case hexadecimal digits in
hyphenated groups of 8, 4, 4, 4 and 12. Four layouts are read, with digits in
either case: the bare 32 digits, the hyphenated groups, the groups in braces,
and the groups after `urn:uuid:`. A refused text is explained by the first
thing that is wrong with it.
-/

namespace Diplomacy.Identifier

variable {kind : Kind}

def groupLengths : List Nat := [8, 4, 4, 4, 12]

/-- Separate the characters of a text into groups by hyphens. -/
def hyphenate : (lengths : List Nat) → List Char → List Char
  | [], _ => []
  | [length], characters => characters.take length
  | length :: lengths, characters =>
      characters.take length ++ '-' :: hyphenate lengths (characters.drop length)

/-- The characters between the hyphens, if the hyphens stand exactly after the
groups of the given lengths. -/
def unhyphenate? : (lengths : List Nat) → List Char → Option (List Char)
  | [], characters => if characters.isEmpty then some [] else none
  | [length], characters => if characters.length = length then some characters else none
  | length :: lengths, characters =>
      match characters.drop length with
      | '-' :: rest => (unhyphenate? lengths rest).map (characters.take length ++ ·)
      | _ => none

/-- The 32 digits of an identifier, most significant first. -/
def digits (identifier : Identifier kind) : List Char :=
  (Numeral.digits 16 32 identifier.value).map Hexadecimal.character

/-- The written form of an identifier, as characters. -/
def characters (identifier : Identifier kind) : List Char :=
  hyphenate groupLengths identifier.digits

def text (identifier : Identifier kind) : String := String.ofList identifier.characters

instance : ToString (Identifier kind) := ⟨text⟩

/-! ## Reading -/

/-- The identifier that 32 hexadecimal digits stand for. -/
def ofDigits? (characters : List Char) : Option (Identifier kind) :=
  if characters.length = 32 then
    (Hexadecimal.digits? characters).bind fun digits => ofNat? (Numeral.value 16 digits)
  else none

def ofHyphenated? (characters : List Char) : Option (Identifier kind) :=
  (unhyphenate? groupLengths characters).bind ofDigits?

/-- The inside of a text in braces. -/
def unbraced? : List Char → Option (List Char)
  | '{' :: rest => if rest.getLast? = some '}' then some rest.dropLast else none
  | _ => none

/-- What the resource-name layout writes before the groups. -/
def resourceMarker : List Char := "urn:uuid:".toList

/-- The rest of a text that begins with the resource marker in either case. -/
def afterResourceMarker? (characters : List Char) : Option (List Char) :=
  let length := resourceMarker.length
  if (characters.take length).map Char.toLower = resourceMarker then
    some (characters.drop length)
  else none

/-- The identifier of a text in one of the four layouts. -/
def ofCharacters? (characters : List Char) : Option (Identifier kind) :=
  ofDigits? characters
    <|> ofHyphenated? characters
    <|> (unbraced? characters).bind ofHyphenated?
    <|> (afterResourceMarker? characters).bind ofHyphenated?

/-! ## Explaining a refusal -/

/-- Why a text is no identifier. Lengths and places count bytes of UTF-8. -/
inductive ParseError where
  /-- The text is empty, too long, or holds only digits but not 32 of them. -/
  | length (found : Nat)
  /-- A character that is neither a digit nor a hyphen. -/
  | character (found : Char) (index : Nat)
  /-- The number of groups is not five. -/
  | groupCount (found : Nat)
  /-- A group, counted from zero, has the wrong length. -/
  | groupLength (group : Nat) (expected : Nat) (found : Nat)
deriving DecidableEq, Repr

def ParseError.message : ParseError → String
  | .length found => s!"invalid length: found {found}"
  | .character found index => s!"invalid character: found `{found}` at {index}"
  | .groupCount found => s!"invalid group count: expected 5, found {found}"
  | .groupLength group expected found =>
      s!"invalid group length in group {group}: expected {expected}, found {found}"

/-- The number of bytes of a text. -/
def byteLength (characters : List Char) : Nat :=
  characters.foldl (fun length character => length + character.utf8Size) 0

/-- The byte places of the hyphens in a text whose other characters are all
digits, counted from `index`; otherwise the first stray character, with its
place moved by `start`. -/
def hyphenPlaces (start : Nat) : (index : Nat) → List Char → Except ParseError (List Nat)
  | _, [] => .ok []
  | index, character :: rest =>
      if character = '-' then
        (hyphenPlaces start (index + 1) rest).map (index :: ·)
      else if Hexadecimal.isDigit character then
        hyphenPlaces start (index + 1) rest
      else
        .error (.character character (index + start))

/-- The first group that does not end at its hyphen, or the last one. Each of
the first four groups is given by its number, its length and where it starts. -/
def wrongGroup (length : Nat) (places : List Nat) : ParseError :=
  let groups := [(0, 8, 0), (1, 4, 9), (2, 4, 14), (3, 4, 19)]
  let wrong := (groups.zip places).find? fun ((_, expected, begins), place) =>
    place ≠ begins + expected
  match wrong with
  | some ((group, expected, begins), place) => .groupLength group expected (place - begins)
  | none => .groupLength 4 12 (length - 24)

/-- What is wrong with the body of a text of `length` bytes, the body starting
at byte `start`. Unless the layout calls for hyphens, a body without any is a
run of digits of the wrong length. -/
def bodyError (length start : Nat) (hyphensExpected : Bool) (body : List Char) : ParseError :=
  match hyphenPlaces start 0 body with
  | .error stray => stray
  | .ok places =>
      if places.isEmpty && !hyphensExpected then .length length
      else if places.length ≠ 4 then .groupCount (places.length + 1)
      else wrongGroup length places

/-- The part of a text that has the size of the hyphenated layout: the text
itself, or its inside in braces, or what follows the resource marker. -/
def hyphenatedPart? (characters : List Char) : Option (List Char) :=
  let sized (part : Option (List Char)) := part.filter (byteLength · = 36)
  sized (some characters) <|> sized (unbraced? characters)
    <|> sized (afterResourceMarker? characters)

/-- What is wrong with a text that has none of the four layouts. -/
def explain (characters : List Char) : ParseError :=
  match hyphenatedPart? characters with
  | some part => bodyError (byteLength part) 0 true part
  | none =>
      let length := byteLength characters
      if length = 0 ∨ 45 < length then .length length
      else
        match unbraced? characters, afterResourceMarker? characters with
        | some inside, _ => bodyError length 1 true inside
        | none, some rest => bodyError length 9 true rest
        | none, none => bodyError length 0 false characters

/-- Read an identifier, or say why the text is none. -/
def parse (text : String) : Except ParseError (Identifier kind) :=
  match ofCharacters? text.toList with
  | some identifier => .ok identifier
  | none => .error (explain text.toList)

/-- The full message for a refused identifier of a kind. -/
def Kind.refusal (kind : Kind) (error : ParseError) : String :=
  s!"Invalid {kind.label} id: {error.message}"

end Diplomacy.Identifier
