/-!
Unicode white space: the 25 characters with the property `White_Space`. Neither
the zero width no-break space nor the information separators are among them.
-/

namespace Diplomacy.Blank

def isBlank (character : Char) : Bool :=
  let point := character.toNat
  (0x9 ≤ point && point ≤ 0xD) || point == 0x20 || point == 0x85 || point == 0xA0
    || point == 0x1680 || (0x2000 ≤ point && point ≤ 0x200A) || point == 0x2028
    || point == 0x2029 || point == 0x202F || point == 0x205F || point == 0x3000

/-- Whether a text holds white space only. -/
def isBlankText (text : String) : Bool := text.toList.all isBlank

/-- A text without the white space around it. -/
def trim (characters : List Char) : List Char :=
  ((characters.dropWhile isBlank).reverse.dropWhile isBlank).reverse

end Diplomacy.Blank
