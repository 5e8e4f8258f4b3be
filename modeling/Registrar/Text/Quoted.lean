import Registrar.Text.PrintableTable
import Registrar.Text.Ranges

/-!
# Quoted text

A text between double quotes in which every character that is not visible by itself is written as
an escape: the common ones by a letter, the others by their code point in braces. The written form
is always on one line.
-/

namespace Registrar.Text

/-- Whether a character attaches to the one before it. -/
def isGraphemeExtend (character : Char) : Bool :=
  inRanges graphemeExtendRanges character.toNat

/-- Whether a character has a visible form or is the ordinary space. -/
def isPrintable (character : Char) : Bool :=
  if character.toNat < 0x80 then 0x20 ≤ character.toNat && character.toNat ≤ 0x7E
  else inRanges printableRanges character.toNat

/-- The escape that gives the number of a character. -/
def codePointEscape (character : Char) : List Char :=
  ['\\', 'u', '\x7b'] ++ Nat.toDigits 16 character.toNat ++ ['\x7d']

/-- The written form of one character; an apostrophe is escaped only where that is asked for. -/
def escapeCharacter (escapeApostrophe : Bool) (character : Char) : List Char :=
  if character = '\x00' then ['\\', '0']
  else if character = '\t' then ['\\', 't']
  else if character = '\r' then ['\\', 'r']
  else if character = '\n' then ['\\', 'n']
  else if character = '\\' then ['\\', '\\']
  else if character = '"' then ['\\', '"']
  else if character = '\'' then if escapeApostrophe then ['\\', '\''] else ['\'']
  else if isGraphemeExtend character then codePointEscape character
  else if isPrintable character then [character]
  else codePointEscape character

/-- The written form of a text between double quotes. -/
def quotedCharacters (escapeApostrophe : Bool) (text : List Char) : List Char :=
  '"' :: text.flatMap (escapeCharacter escapeApostrophe) ++ ['"']

/-- A text between double quotes; apostrophes stay as they are. -/
def quoted (text : String) : String :=
  String.ofList (quotedCharacters false text.toList)

/-- A file path between double quotes; apostrophes are escaped. -/
def quotedPath (path : String) : String :=
  String.ofList (quotedCharacters true path.toList)

end Registrar.Text
