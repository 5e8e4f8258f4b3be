import Registrar.Text.IdentifierTable
import Registrar.Text.Ranges

/-!
# Characters of identifiers

An identifier starts with a member of `XID_Start` or an underscore and goes on with members of
`XID_Continue`.
-/

namespace Registrar.Text

/-- Whether an identifier may begin with a character. -/
def isIdentifierStart (character : Char) : Bool :=
  if character.toNat < 0x80 then character.isAlpha || character == '_'
  else inRanges identifierStartRanges character.toNat

/-- Whether a character may stand in an identifier after its start. -/
def isIdentifierContinue (character : Char) : Bool :=
  if character.toNat < 0x80 then character.isAlphanum || character == '_'
  else inRanges identifierStartRanges character.toNat ||
    inRanges identifierContinueRanges character.toNat

theorem isIdentifierContinue_of_isIdentifierStart {character : Char}
    (starts : isIdentifierStart character = true) : isIdentifierContinue character = true := by
  unfold isIdentifierStart at starts
  unfold isIdentifierContinue
  split at starts <;> simp_all [Char.isAlphanum]
  grind

end Registrar.Text
