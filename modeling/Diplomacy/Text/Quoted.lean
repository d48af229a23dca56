import Diplomacy.Text.Printable

/-!
Texts in quotes, for descriptions of values. The quote, the backslash and the
usual control characters are written with a backslash, any other character that
would not be seen by its number, and the rest as they are.
-/

namespace Diplomacy.Quoted

/-- The number of a character in lower-case hexadecimal, without leading zeros. -/
def number (character : Char) : List Char :=
  (Nat.toDigits 16 character.toNat)

def writeCharacter (character : Char) : List Char :=
  match character with
  | '\x00' => ['\\', '0']
  | '\t' => ['\\', 't']
  | '\r' => ['\\', 'r']
  | '\n' => ['\\', 'n']
  | '"' => ['\\', '"']
  | '\\' => ['\\', '\\']
  | other =>
      if Printable.isPrintable other then [other]
      else ['\\', 'u', '\x7b'] ++ number other ++ ['\x7d']

def write (text : String) : String :=
  String.ofList ('"' :: text.toList.flatMap writeCharacter ++ ['"'])

end Diplomacy.Quoted
