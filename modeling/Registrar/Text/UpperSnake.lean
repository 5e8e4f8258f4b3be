import Registrar.Text.CasingTable
import Registrar.Text.Ranges

/-!
# Upper snake case

A name is split into words and the words are written in upper case with underscores between them.
A word ends at a character that is neither letter nor number, before an upper-case letter that
follows a lower-case one, and before the last of several upper-case letters that a lower-case one
follows.
-/

namespace Registrar.Text

/-- Whether a character is a letter or a number. -/
def isAlphanumeric (character : Char) : Bool :=
  if character.toNat < 0x80 then character.isAlphanum
  else inRanges alphabeticRanges character.toNat || inRanges numericRanges character.toNat

/-- Whether a character is an uppercase letter. -/
def isUppercase (character : Char) : Bool :=
  if character.toNat < 0x80 then character.isUpper else inRanges uppercaseRanges character.toNat

/-- Whether a character is a lowercase letter. -/
def isLowercase (character : Char) : Bool :=
  if character.toNat < 0x80 then character.isLower else inRanges lowercaseRanges character.toNat

/-- The full upper-case form of a character. -/
def toUppercase (character : Char) : List Char :=
  let codePoint := character.toNat
  if codePoint < 0x80 then [character.toUpper]
  else match uppercaseExpansions.find? fun entry => entry.1 == codePoint with
    | some (_, expansion) => expansion.map Char.ofNat
    | none =>
      match uppercaseRuns.find? fun (first, last, stride, _) =>
          first ≤ codePoint && codePoint ≤ last && (codePoint - first) % stride == 0 with
      | some (_, _, _, offset) => [Char.ofNat (Int.toNat (codePoint + offset))]
      | none => [character]

/-- What the characters of the current word have been so far. -/
inductive WordCase
  | none | lower | upper
  deriving DecidableEq, Repr

/-- Splits a run of letters and numbers into words; `word` holds the current word in reverse. -/
def splitWords (case : WordCase) (word : List Char) : List Char → List (List Char)
  | [] => if word.isEmpty then [] else [word.reverse]
  | [character] => [(character :: word).reverse]
  | character :: next :: rest =>
    let nextCase :=
      if isLowercase character then .lower
      else if isUppercase character then .upper
      else case
    if nextCase = .lower ∧ isUppercase next then
      (character :: word).reverse :: splitWords .none [] (next :: rest)
    else if case = .upper ∧ isUppercase character ∧ isLowercase next then
      word.reverse :: splitWords .none [character] (next :: rest)
    else splitWords nextCase (character :: word) (next :: rest)

/-- The maximal runs of letters and numbers in a text, possibly empty ones between two others. -/
def alphanumericRuns : List Char → List (List Char)
  | [] => [[]]
  | character :: rest =>
    if isAlphanumeric character then
      match alphanumericRuns rest with
      | [] => [[character]]
      | run :: others => (character :: run) :: others
    else [] :: alphanumericRuns rest

/-- The words of a name. -/
def nameWords (name : List Char) : List (List Char) :=
  (alphanumericRuns name).flatMap (splitWords .none [])

/-- A name in capital letters, with an underscore between each two of its words. -/
def upperSnake (name : List Char) : List Char :=
  ['_'].intercalate ((nameWords name).map fun word => word.flatMap toUppercase)

end Registrar.Text
