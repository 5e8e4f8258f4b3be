/-!
# Calendar dates

Dates of the Gregorian calendar, extended to all years, and the days that they count from the first
of January 1970. A year is counted from March, so that a leap day ends it.
-/

namespace Registrar

/-- A year, a month and a day of the month, both counted from one. -/
structure Date where
  year : Int
  month : Nat
  day : Nat
  deriving DecidableEq, Repr

namespace Date

/-- The days before the first of March of the year zero, negated. -/
def marchOfYearZero : Int := 719468

/-- The number of days in four hundred years. -/
def daysOfEra : Int := 146097

/-- The days in a year before the given month, both counted from March, which is month zero. -/
def daysBeforeMonth (month : Int) : Int := (153 * month + 2) / 5

/-- The number of days in the years from the year zero up to the given one. -/
def daysBeforeYear (year : Int) : Int := 365 * year + year / 4 - year / 100 + year / 400

/-- The days from the first of January 1970 to a date. -/
def toDays (date : Date) : Int :=
  let year := if date.month ≤ 2 then date.year - 1 else date.year
  let month : Int := (date.month + 9) % 12
  daysBeforeYear year + daysBeforeMonth month + date.day - 1 - marchOfYearZero

/-- The date that lies the given number of days after the first of January 1970. -/
def ofDays (days : Int) : Date :=
  let count := days + marchOfYearZero
  let era := count / daysOfEra
  let dayOfEra := count % daysOfEra
  let yearOfEra :=
    (dayOfEra - dayOfEra / 1460 + dayOfEra / 36524 - dayOfEra / 146096) / 365
  let dayOfYear := dayOfEra - daysBeforeYear yearOfEra
  let month := (5 * dayOfYear + 2) / 153
  { year := yearOfEra + 400 * era + if month < 10 then 0 else 1
    month := (if month < 10 then month + 3 else month - 9).toNat
    day := (dayOfYear - daysBeforeMonth month + 1).toNat }

/-- Whether the calendar has the date: it is the date of the days that it counts. -/
def isValid (date : Date) : Bool := ofDays date.toDays == date

end Date

end Registrar
