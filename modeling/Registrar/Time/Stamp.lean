import Registrar.Time.Instant

/-!
# Reading stamps

A stamp is a date of four, two and two digits, a letter `T` or a space, a time of day, an optional
fraction of a second and an offset, which is a letter `Z` or hours and minutes with a sign.
-/

namespace Registrar.Instant

/-- The number that the first `count` characters are, all of which have to be digits, and what
follows. -/
def readNumber? (count : Nat) (text : List Char) : Option (Nat × List Char) :=
  let digits := text.take count
  if digits.length = count ∧ digits.all Char.isDigit then
    some (Nat.ofDigitChars 10 digits 0, text.drop count)
  else none

/-- What follows the given character. -/
def after? (expected : Char) : List Char → Option (List Char)
  | [] => none
  | character :: rest => if character = expected then some rest else none

/-- The nanoseconds of a fraction and what follows it. Digits after the ninth are ignored. -/
def readFraction? : List Char → Option (Nat × List Char)
  | '.' :: rest =>
    let digits := rest.takeWhile Char.isDigit
    if digits.isEmpty then none
    else
      let told := digits.take 9
      some (Nat.ofDigitChars 10 told 0 * Nat.pow 10 (9 - told.length), rest.dropWhile Char.isDigit)
  | rest => some (0, rest)

/-- Reads the hours and minutes of an offset with the given sign, in seconds. -/
def readSignedOffset? (sign : Int) (text : List Char) : Option (Int × List Char) := do
  let (hours, rest) ← readNumber? 2 text
  let rest ← after? ':' rest
  let (minutes, rest) ← readNumber? 2 rest
  if hours ≤ 23 ∧ minutes ≤ 59 then some (sign * (3600 * hours + 60 * minutes), rest) else none

/-- The seconds of an offset and what follows it. A minus sign may be a hyphen. -/
def readOffset? : List Char → Option (Int × List Char)
  | 'Z' :: rest => some (0, rest)
  | 'z' :: rest => some (0, rest)
  | '+' :: rest => readSignedOffset? 1 rest
  | '-' :: rest => readSignedOffset? (-1) rest
  | '\u2212' :: rest => readSignedOffset? (-1) rest
  | _ => none

/-- What follows the mark between date and time. -/
def afterDateMark? : List Char → Option (List Char)
  | 'T' :: rest => some rest
  | 't' :: rest => some rest
  | ' ' :: rest => some rest
  | _ => none

/-- The date at the start of a text and what follows it. -/
def readDate? (text : List Char) : Option (Date × List Char) := do
  let (year, rest) ← readNumber? 4 text
  let (month, rest) ← readNumber? 2 (← after? '-' rest)
  let (day, rest) ← readNumber? 2 (← after? '-' rest)
  let date : Date := ⟨year, month, day⟩
  if date.isValid then some (date, rest) else none

/-- The seconds since midnight and the nanoseconds at the start of a text, and what follows them.
The second after the last one of a minute is a leap second. -/
def readTime? (text : List Char) : Option (Nat × Nat × List Char) := do
  let (hour, rest) ← readNumber? 2 text
  let (minute, rest) ← readNumber? 2 (← after? ':' rest)
  let (second, rest) ← readNumber? 2 (← after? ':' rest)
  let (nanoseconds, rest) ← readFraction? rest
  if hour ≤ 23 ∧ minute ≤ 59 ∧ second ≤ 60 then
    let start := 3600 * hour + 60 * minute
    if second = 60 then some (start + 59, nanosecondsOfSecond + nanoseconds, rest)
    else some (start + second, nanoseconds, rest)
  else none

/-- The instant that a text tells, be it with an offset or a fraction of a second. -/
def ofStamp? (text : List Char) : Option Instant := do
  let (date, rest) ← readDate? text
  let (second, nanoseconds, rest) ← readTime? (← afterDateMark? rest)
  let (offset, rest) ← readOffset? rest
  if rest.isEmpty then some ⟨date.toDays * secondsOfDay + second - offset, nanoseconds⟩ else none

end Registrar.Instant
