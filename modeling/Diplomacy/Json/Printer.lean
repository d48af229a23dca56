import Diplomacy.Text.Hexadecimal

/-!
Writing JSON text, without blanks. In a string only the quote, the backslash and
the control characters are escaped.
-/

namespace Diplomacy.Json

def writeCharacter (character : Char) : List Char :=
  match character with
  | '"' => ['\\', '"']
  | '\\' => ['\\', '\\']
  | '\x08' => ['\\', 'b']
  | '\x0c' => ['\\', 'f']
  | '\n' => ['\\', 'n']
  | '\r' => ['\\', 'r']
  | '\t' => ['\\', 't']
  | other =>
      if other.toNat < 0x20 then
        ['\\', 'u', '0', '0', Hexadecimal.character (other.toNat / 16),
          Hexadecimal.character (other.toNat % 16)]
      else [other]

def writeString (text : String) : List Char :=
  '"' :: text.toList.flatMap writeCharacter ++ ['"']

def writeNatural (value : Nat) : List Char := Nat.toDigits 10 value

def writeBool (value : Bool) : List Char := if value then "true".toList else "false".toList

/-- The members of an object, each given by its name and its written value. -/
def writeMembers : List (String × List Char) → List Char
  | [] => []
  | [(name, value)] => writeString name ++ ':' :: value
  | (name, value) :: members => writeString name ++ ':' :: value ++ ',' :: writeMembers members

def writeObject (members : List (String × List Char)) : List Char :=
  '\x7b' :: writeMembers members ++ ['\x7d']

end Diplomacy.Json
