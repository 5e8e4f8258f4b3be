import Registrar.Time.Date

/-!
# The calendar reads back

The date of a number of days counts these days again. An era of four centuries is split into
centuries, groups of four years, years and days, with the leap days at the ends of the parts. The
year that `Date.ofDays` computes from a day of the era is the one in which the parts put it.
-/

namespace Registrar.Date

/-- Where a day lies in its era. Only the last year of a group has a last day of its own, and the
last group of a century lacks it except at the end of the era. -/
structure EraDay where
  century : Int
  group : Int
  year : Int
  day : Int
  century_bounds : 0 ≤ century ∧ century ≤ 3
  group_bounds : 0 ≤ group ∧ group ≤ 24
  year_bounds : 0 ≤ year ∧ year ≤ 3
  day_bounds : 0 ≤ day ∧ (day ≤ 364 ∨ day = 365 ∧ year = 3 ∧ (group < 24 ∨ century = 3))

namespace EraDay

/-- The days of the era before the day. -/
def dayOfEra (place : EraDay) : Int :=
  36524 * place.century + 1461 * place.group + 365 * place.year + place.day

/-- The years of the era before the year of the day. -/
def yearOfEra (place : EraDay) : Int :=
  100 * place.century + 4 * place.group + place.year

theorem exists_dayOfEra_eq {dayOfEra : Int} (nonneg : 0 ≤ dayOfEra)
    (below : dayOfEra < daysOfEra) : ∃ place : EraDay, place.dayOfEra = dayOfEra := by
  simp only [daysOfEra] at below
  let century := min 3 (dayOfEra / 36524)
  let inCentury := dayOfEra - 36524 * century
  let group := inCentury / 1461
  let inGroup := inCentury % 1461
  let year := min 3 (inGroup / 365)
  refine ⟨⟨century, group, year, inGroup - 365 * year, ?_, ?_, ?_, ?_⟩, ?_⟩
  · omega
  · omega
  · omega
  · omega
  · simp only [EraDay.dayOfEra]
    omega

theorem yearOfEra_eq (place : EraDay) :
    (place.dayOfEra - place.dayOfEra / 1460 + place.dayOfEra / 36524 -
      place.dayOfEra / 146096) / 365 = place.yearOfEra := by
  rcases place with ⟨century, group, year, day, centuryBounds, groupBounds, yearBounds, dayBounds⟩
  simp only [dayOfEra, yearOfEra]
  generalize whole : 36524 * century + 1461 * group + 365 * year + day = dayOfEra
  -- The last day of the era is the only one whose quotients fall out of their part.
  have eras : dayOfEra / 146096 = if dayOfEra = 146096 then 1 else 0 := by omega
  have centuries : dayOfEra / 36524 = century + if dayOfEra = 146096 then 1 else 0 := by omega
  have years : dayOfEra / 1460 =
      25 * century + group + if 1460 ≤ 24 * century + group + 365 * year + day then 1 else 0 := by
    omega
  omega

theorem daysBeforeYear_yearOfEra (place : EraDay) :
    daysBeforeYear place.yearOfEra = place.dayOfEra - place.day := by
  rcases place with ⟨century, group, year, day, centuryBounds, groupBounds, yearBounds, dayBounds⟩
  simp only [daysBeforeYear, dayOfEra, yearOfEra]
  omega

end EraDay

/-- The day of a year that starts in March is told by the month and the day that it computes. -/
theorem monthAndDay_bounds (dayOfYear : Int) (nonneg : 0 ≤ dayOfYear) (le : dayOfYear ≤ 365) :
    let month := (5 * dayOfYear + 2) / 153
    0 ≤ month ∧ month ≤ 11 ∧ 0 ≤ dayOfYear - daysBeforeMonth month ∧
      dayOfYear - daysBeforeMonth month ≤ 30 := by
  simp only [daysBeforeMonth]
  omega

theorem daysBeforeYear_add_eras (year era : Int) :
    daysBeforeYear (year + 400 * era) = daysBeforeYear year + daysOfEra * era := by
  simp only [daysBeforeYear, daysOfEra]
  omega

/-- What `ofDays` computes, told by the place of the day in its era. -/
theorem ofDays_eq (place : EraDay) (era : Int) :
    ofDays (place.dayOfEra + daysOfEra * era - marchOfYearZero) =
      let month := (5 * place.day + 2) / 153
      { year := place.yearOfEra + 400 * era + if month < 10 then 0 else 1
        month := (if month < 10 then month + 3 else month - 9).toNat
        day := (place.day - daysBeforeMonth month + 1).toNat } := by
  have bounds : 0 ≤ place.dayOfEra ∧ place.dayOfEra < daysOfEra := by
    rcases place with ⟨century, group, year, day, centuryBounds, groupBounds, yearBounds, dayBounds⟩
    simp only [EraDay.dayOfEra, daysOfEra]
    omega
  have count : place.dayOfEra + daysOfEra * era - marchOfYearZero + marchOfYearZero =
      place.dayOfEra + daysOfEra * era := by omega
  have eras : (place.dayOfEra + daysOfEra * era) / daysOfEra = era := by
    simp only [daysOfEra] at bounds ⊢
    omega
  have rest : (place.dayOfEra + daysOfEra * era) % daysOfEra = place.dayOfEra := by
    simp only [daysOfEra] at bounds ⊢
    omega
  have day : place.dayOfEra - daysBeforeYear place.yearOfEra = place.day := by
    have := place.daysBeforeYear_yearOfEra
    omega
  simp only [ofDays, count, eras, rest, place.yearOfEra_eq, day]

/-- Every number of days is told by a place in an era. -/
theorem exists_eraDay (days : Int) :
    ∃ (place : EraDay) (era : Int), days = place.dayOfEra + daysOfEra * era - marchOfYearZero := by
  have nonneg : 0 ≤ (days + marchOfYearZero) % daysOfEra := by
    simp only [daysOfEra]
    omega
  have below : (days + marchOfYearZero) % daysOfEra < daysOfEra := by
    simp only [daysOfEra]
    omega
  rcases EraDay.exists_dayOfEra_eq nonneg below with ⟨place, placed⟩
  refine ⟨place, (days + marchOfYearZero) / daysOfEra, ?_⟩
  rw [placed]
  have := Int.emod_add_mul_ediv (days + marchOfYearZero) daysOfEra
  omega

theorem toDays_ofDays (days : Int) : (ofDays days).toDays = days := by
  rcases exists_eraDay days with ⟨place, era, rfl⟩
  have dayBounds := place.day_bounds
  have monthBounds := monthAndDay_bounds place.day (by omega) (by omega)
  have before := place.daysBeforeYear_yearOfEra
  rw [ofDays_eq]
  simp only at monthBounds ⊢
  generalize (5 * place.day + 2) / 153 = month at monthBounds ⊢
  -- The year and the month are shifted back from January to March.
  have year : (if (if month < 10 then month + 3 else month - 9).toNat ≤ 2 then
      (place.yearOfEra + 400 * era + if month < 10 then 0 else 1) - 1
      else place.yearOfEra + 400 * era + if month < 10 then 0 else 1) =
      place.yearOfEra + 400 * era := by
    split <;> split <;> omega
  have fromMarch :
      (((if month < 10 then month + 3 else month - 9).toNat : Int) + 9) % 12 = month := by
    split <;> omega
  simp only [toDays, year, fromMarch, daysBeforeYear_add_eras]
  omega

theorem month_ofDays (days : Int) : 1 ≤ (ofDays days).month ∧ (ofDays days).month ≤ 12 := by
  rcases exists_eraDay days with ⟨place, era, rfl⟩
  have dayBounds := place.day_bounds
  have monthBounds := monthAndDay_bounds place.day (by omega) (by omega)
  rw [ofDays_eq]
  simp only at monthBounds ⊢
  split <;> omega

theorem day_ofDays (days : Int) : 1 ≤ (ofDays days).day ∧ (ofDays days).day ≤ 31 := by
  rcases exists_eraDay days with ⟨place, era, rfl⟩
  have dayBounds := place.day_bounds
  have monthBounds := monthAndDay_bounds place.day (by omega) (by omega)
  rw [ofDays_eq]
  simp only at monthBounds ⊢
  omega

/-- The calendar has every date that is the date of a number of days. -/
theorem isValid_ofDays (days : Int) : (ofDays days).isValid = true := by
  simp [isValid, toDays_ofDays]

end Registrar.Date
