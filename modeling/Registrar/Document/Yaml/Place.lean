/-!
# Places in a YAML text

Each character of a text is known with its line, its column and its index. All line breaks but the
two separators of Unicode are the same break. A break is on the line that it ends.
-/

namespace Registrar.Yaml

/-- A character with its place in the text. -/
structure Placed where
  character : Char
  line : Nat
  column : Nat
  index : Nat
  deriving DecidableEq, Repr

/-- Whether a character may stand in a text. -/
def isAllowed (character : Char) : Bool :=
  let codePoint := character.toNat
  codePoint == 0x09 || codePoint == 0x0A || codePoint == 0x0D || codePoint == 0x85 ||
    (0x20 ≤ codePoint && codePoint ≤ 0x7E) || (0xA0 ≤ codePoint && codePoint ≤ 0xFFFD) ||
    0x10000 ≤ codePoint

/-- Whether a character is a space or a tab. -/
def isBlank (character : Char) : Bool := character = ' ' || character = '\t'

/-- Whether a character ends a line. -/
def isBreak (character : Char) : Bool :=
  character = '\n' || character = '\u2028' || character = '\u2029'

/-- Whether a character is part of the names of anchors, directives and tag handles. -/
def isNameCharacter (character : Char) : Bool :=
  character.isAlphanum || character = '_' || character = '-'

/-- The characters of a text with their places, from the given place on. Each line break is one
character. -/
def place (line column index : Nat) : List Char → List Placed
  | [] => []
  | '\r' :: '\n' :: rest => ⟨'\n', line, column, index⟩ :: place (line + 1) 0 (index + 2) rest
  | character :: rest =>
    if character = '\r' || character = '\u0085' then
      ⟨'\n', line, column, index⟩ :: place (line + 1) 0 (index + 1) rest
    else if isBreak character then
      ⟨character, line, column, index⟩ :: place (line + 1) 0 (index + 1) rest
    else ⟨character, line, column, index⟩ :: place line (column + 1) (index + 1) rest

/-- The mark of the byte order, which may begin a text. -/
def byteOrderMark : Char := '\ufeff'

/-- The placed characters of a text, if all of them may stand in one. -/
def placed? (text : List Char) : Option (List Placed) :=
  if text.all isAllowed then some (place 0 0 0 (text.dropWhile (· = byteOrderMark))) else none

namespace Placed

/-- Whether a character is a space or a tab. -/
def isBlank (placed : Placed) : Bool := Yaml.isBlank placed.character

/-- Whether a character ends a line. -/
def isBreak (placed : Placed) : Bool := Yaml.isBreak placed.character

/-- Whether a character is blank or ends a line. -/
def isGap (placed : Placed) : Bool := placed.isBlank || placed.isBreak

end Placed

/-- Whether the next character is the given one. -/
def startsWith (character : Char) (text : List Placed) : Bool :=
  text.head?.any fun first => first.character = character

/-- Whether the next character is one of the given ones. -/
def startsWithAny (characters : List Char) (text : List Placed) : Bool :=
  text.head?.any fun first => characters.contains first.character

/-- Whether a gap or the end of the text is next. -/
def gapFollows (text : List Placed) : Bool :=
  match text with
  | [] => true
  | first :: _ => first.isGap

/-- Whether a line ends here. -/
def lineEnds (text : List Placed) : Bool :=
  match text with
  | [] => true
  | first :: _ => first.isBreak

/-- Whether the given character stands three times at the start of a line, with a gap behind. -/
def isMarker (character : Char) : List Placed → Bool
  | first :: second :: third :: rest =>
    first.column = 0 && first.character = character && second.character = character &&
      third.character = character && gapFollows rest
  | _ => false

/-- Whether a line starts that separates documents. -/
def isDocumentMarker (text : List Placed) : Bool := isMarker '-' text || isMarker '.' text

/-- Characters without their places. -/
def characters (text : List Placed) : List Char := text.map Placed.character

/-- What follows the blanks at the start of a text. -/
def afterBlanks (text : List Placed) : List Placed := text.dropWhile Placed.isBlank

/-- What follows the rest of a line without its break. -/
def afterLine (text : List Placed) : List Placed := text.dropWhile fun first => !first.isBreak

/-- What follows blanks, a comment and the end of the line; nothing where something else stands. -/
def afterLineEnd? (text : List Placed) : Option (List Placed) :=
  let rest := afterBlanks text
  let rest := if startsWith '#' rest then afterLine rest else rest
  match rest with
  | [] => some []
  | first :: rest => if first.isBreak then some rest else none

end Registrar.Yaml
