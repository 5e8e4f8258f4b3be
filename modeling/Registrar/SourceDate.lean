import Registrar.Text.Blank
import Registrar.Time.Instant

/-!
# The source date

The environment may fix the instant that the header of an artifact tells, as a number of seconds
since the start of 1970. A value that is no number is reported; a number of which no date is known
is passed over.
-/

namespace Registrar

/-- What the environment says about the instant of an artifact. -/
inductive SourceDate
  | unset
  | unreadable (value : String)
  | outOfRange
  | fixed (instant : Instant)
  deriving DecidableEq, Repr

namespace SourceDate

/-- The variable that tells the source date. -/
def variableName : String := "SOURCE_DATE_EPOCH"

/-- Whether a number fits into 64 bits with a sign. -/
def isInRange (number : Int) : Bool :=
  -9223372036854775808 ≤ number && number < 9223372036854775808

/-- The number that decimal digits are, if there are any. -/
def magnitude? (digits : List Char) : Option Nat :=
  if digits.isEmpty || !digits.all Char.isDigit then none
  else some (Nat.ofDigitChars 10 digits 0)

/-- The number that a text is, with or without a sign. -/
def number? (text : List Char) : Option Int :=
  let number : Option Int := match text with
    | '-' :: digits => (magnitude? digits).map fun magnitude => -magnitude
    | '+' :: digits => (magnitude? digits).map Int.ofNat
    | digits => (magnitude? digits).map Int.ofNat
  number.filter isInRange

/-- The source date that a value tells. Blanks around the number do not count. -/
def ofText (value : String) : SourceDate :=
  match number? (Text.trimBlanks value.toList) with
  | none => unreadable value
  | some seconds =>
    match Instant.ofSeconds? seconds with
    | some instant => fixed instant
    | none => outOfRange

/-- The source date of a variable that may be set. -/
def ofVariable : Option String → SourceDate
  | none => unset
  | some value => ofText value

/-- The instant that a source date fixes, if it fixes one. -/
def instant? : SourceDate → Option Instant
  | fixed instant => some instant
  | _ => none

end SourceDate

end Registrar
