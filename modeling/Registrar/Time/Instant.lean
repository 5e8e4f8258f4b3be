import Registrar.Time.Date

/-!
# Instants

An instant is told by the seconds since the start of 1970 in universal time and by nanoseconds. It
is written as a date and a time of day; a text that is read may also tell an offset from universal
time. A leap second is the second before it with more nanoseconds than a second has.
-/

namespace Registrar

/-- An instant. A leap second has a thousand million nanoseconds or more. -/
structure Instant where
  seconds : Int
  nanoseconds : Nat
  deriving DecidableEq, Repr

namespace Instant

/-- The number of seconds in a day. -/
def secondsOfDay : Int := 86400

/-- The number of nanoseconds in a second. -/
def nanosecondsOfSecond : Nat := 1000000000

/-- The date of an instant. -/
def date (instant : Instant) : Date := Date.ofDays (instant.seconds / secondsOfDay)

/-- Whether instants of the given year can be told. -/
def isYearInRange (year : Int) : Bool := -262143 ≤ year && year ≤ 262142

/-- The instant of a whole second, if its year can be told. -/
def ofSeconds? (seconds : Int) : Option Instant :=
  let instant : Instant := ⟨seconds, 0⟩
  if isYearInRange instant.date.year then some instant else none

/-- The start of the second in which an instant lies. -/
def truncated (instant : Instant) : Instant := ⟨instant.seconds, 0⟩

/-- The decimal digits of a number with zeros in front, at least as many as asked for. -/
def paddedDigits (width value : Nat) : List Char :=
  let digits := Nat.toDigits 10 value
  List.replicate (width - digits.length) '0' ++ digits

/-- The year in a stamp. A year of other than four digits has a sign. -/
def yearText (year : Int) : List Char :=
  if 0 ≤ year && year ≤ 9999 then paddedDigits 4 year.toNat
  else (if year < 0 then '-' else '+') :: paddedDigits 4 year.natAbs

/-- The date and the time of day, without fraction and offset. -/
def clockText (instant : Instant) : List Char :=
  let date := instant.date
  let second := (instant.seconds % secondsOfDay).toNat
  let leap := instant.nanoseconds / nanosecondsOfSecond
  yearText date.year ++ '-' :: paddedDigits 2 date.month ++ '-' :: paddedDigits 2 date.day ++
    'T' :: paddedDigits 2 (second / 3600) ++ ':' :: paddedDigits 2 (second / 60 % 60) ++
    ':' :: paddedDigits 2 (second % 60 + leap)

/-- The stamp of an instant, which leaves fractions of a second out. -/
def stamp (instant : Instant) : List Char :=
  instant.clockText ++ ['Z']

/-- The fraction of a second, in the fewest groups of three digits that tell it. -/
def fractionText (nanoseconds : Nat) : List Char :=
  if nanoseconds = 0 then []
  else if nanoseconds % 1000000 = 0 then '.' :: paddedDigits 3 (nanoseconds / 1000000)
  else if nanoseconds % 1000 = 0 then '.' :: paddedDigits 6 (nanoseconds / 1000)
  else '.' :: paddedDigits 9 nanoseconds

/-- The stamp of an instant with its fraction of a second. -/
def preciseStamp (instant : Instant) : List Char :=
  instant.clockText ++ fractionText (instant.nanoseconds % nanosecondsOfSecond) ++ ['Z']

end Instant

end Registrar
