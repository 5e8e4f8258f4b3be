/-!
# Blank characters

The Unicode property `White_Space`. Text that is compared without regard to layout drops exactly
these characters.
-/

namespace Registrar.Text

/-- Whether a character has the property `White_Space`. -/
def isBlank (character : Char) : Bool :=
  let codePoint := character.toNat
  (9 ≤ codePoint && codePoint ≤ 13) || codePoint == 0x20 || codePoint == 0x85 ||
    codePoint == 0xA0 || codePoint == 0x1680 || (0x2000 ≤ codePoint && codePoint ≤ 0x200A) ||
    codePoint == 0x2028 || codePoint == 0x2029 || codePoint == 0x202F || codePoint == 0x205F ||
    codePoint == 0x3000

/-- A text without its blanks. -/
def withoutBlanks (text : List Char) : List Char :=
  text.filter fun character => !isBlank character

/-- The text without blank characters at either end. -/
def trimBlanks (text : List Char) : List Char :=
  ((text.dropWhile isBlank).reverse.dropWhile isBlank).reverse

end Registrar.Text
