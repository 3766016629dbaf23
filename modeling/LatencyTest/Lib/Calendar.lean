import Mathlib

/-!
The Gregorian calendar in UTC. Days are numbered from the epoch, 1 January 1970, and years
are taken from March to February, so that the leap day is the last one. A broken-down time
(`Tm`) need not be normalized: `timegm` carries what is out of range, and is a left inverse
of `gmtime` (`timegm_gmtime`).
-/

namespace LatencyTest.Lib

/-- A broken-down time: the month is counted from January, the year from 1900, and the
daylight saving time flag is negative where it is not known. -/
structure Tm where
  sec : Int := 0
  min : Int := 0
  hour : Int := 0
  mday : Int := 0
  mon : Int := 0
  year : Int := 0
  isdst : Int := 0
deriving DecidableEq, Repr

/-- The days from 1 March of year 0 to the epoch. -/
def epochOffset : Int := 719468

/-- The days from 1 March of year 0 to 1 March of a year. -/
def daysToYear (year : Int) : Int := 365 * year + year / 4 - year / 100 + year / 400

/-- The days from 1 March to the first day of a month, which is counted from March. -/
def daysToMonth (month : Int) : Int := (153 * month + 2) / 5

/-- The number of a day. The month is counted from January, and is 1 there. -/
def daysOfCivil (year month day : Int) : Int :=
  daysToYear (if month ≤ 2 then year - 1 else year) + daysToMonth ((month + 9) % 12) + day - 1 -
    epochOffset

/-- The year of a period of 400 years, and the day of that year, of a day of the period. The
last century and the last year of four are a day longer than the others. -/
def yearOfEra (day : Int) : Int × Int :=
  let century := min (day / 36524) 3
  let dayOfCentury := day - century * 36524
  let dayOfFour := dayOfCentury % 1461
  let year := min (dayOfFour / 365) 3
  (century * 100 + dayOfCentury / 1461 * 4 + year, dayOfFour - year * 365)

/-- The year, month and day of the day with a number. -/
def civilOfDays (days : Int) : Int × Int × Int :=
  let (yearOfEra, dayOfYear) := yearOfEra ((days + epochOffset) % 146097)
  let year := (days + epochOffset) / 146097 * 400 + yearOfEra
  let month := (5 * dayOfYear + 2) / 153
  let day := dayOfYear - daysToMonth month + 1
  if month < 10 then (year, month + 3, day) else (year + 1, month - 9, day)

/-- The broken-down time of a number of seconds since the epoch. -/
def gmtime (seconds : Int) : Tm :=
  let (year, month, day) := civilOfDays (seconds / 86400)
  let second := seconds % 86400
  { sec := second % 60, min := second / 60 % 60, hour := second / 3600, mday := day,
    mon := month - 1, year := year - 1900 }

/-- The seconds from the epoch to a broken-down time. -/
def timegm (tm : Tm) : Int :=
  let days := daysOfCivil (tm.year + 1900 + tm.mon / 12) (tm.mon % 12 + 1) 1 + (tm.mday - 1)
  days * 86400 + tm.hour * 3600 + tm.min * 60 + tm.sec

/-- A period of 400 years has as many days whenever it begins. -/
theorem daysToYear_era (era year : Int) :
    daysToYear (era * 400 + year) = era * 146097 + daysToYear year := by
  simp only [daysToYear]
  omega

/-- The days before a year of a period of 400 years, by its century, the four years and the
year. -/
theorem daysToYear_parts {century four year : Int} (firstCentury : 0 ≤ century)
    (lastCentury : century ≤ 3) (firstFour : 0 ≤ four) (lastFour : four ≤ 24)
    (firstYear : 0 ≤ year) (lastYear : year ≤ 3) :
    daysToYear (century * 100 + four * 4 + year) = century * 36524 + four * 1461 + year * 365 := by
  have fours : (century * 100 + four * 4 + year) / 4 = century * 25 + four := by omega
  have hundreds : (century * 100 + four * 4 + year) / 100 = century := by omega
  have eras : (century * 100 + four * 4 + year) / 400 = 0 := by omega
  rw [daysToYear, fours, hundreds, eras]
  ring

/-- A day of a period of 400 years is found again from its year. -/
theorem yearOfEra_spec {day : Int} (nonneg : 0 ≤ day) (below : day < 146097) :
    daysToYear (yearOfEra day).1 + (yearOfEra day).2 = day ∧
      0 ≤ (yearOfEra day).2 ∧ (yearOfEra day).2 < 366 := by
  simp only [yearOfEra]
  set century := min (day / 36524) 3 with century_eq
  set dayOfCentury := day - century * 36524 with dayOfCentury_eq
  set year := min (dayOfCentury % 1461 / 365) 3 with year_eq
  have inCentury : 0 ≤ dayOfCentury ∧ dayOfCentury ≤ 36524 := by omega
  have inYear : 0 ≤ dayOfCentury % 1461 - year * 365 ∧
      dayOfCentury % 1461 - year * 365 < 366 := by omega
  refine ⟨?_, inYear⟩
  rw [daysToYear_parts (by omega) (by omega) (by omega) (by omega) (by omega) (by omega)]
  omega

/-- A day of the year is in a month of it. -/
theorem month_bounds {day : Int} (nonneg : 0 ≤ day) (below : day < 366) :
    0 ≤ (5 * day + 2) / 153 ∧ (5 * day + 2) / 153 < 12 := by
  omega

/-- A day is numbered by the date that its number gives. -/
theorem daysOfCivil_civilOfDays (days : Int) :
    daysOfCivil (civilOfDays days).1 (civilOfDays days).2.1 (civilOfDays days).2.2 = days := by
  have nonneg : 0 ≤ (days + epochOffset) % 146097 := Int.emod_nonneg _ (by decide)
  have below : (days + epochOffset) % 146097 < 146097 := Int.emod_lt_of_pos _ (by decide)
  obtain ⟨found, first, last⟩ := yearOfEra_spec nonneg below
  obtain ⟨firstMonth, lastMonth⟩ := month_bounds first last
  have whole := Int.emod_add_mul_ediv (days + epochOffset) 146097
  simp only [civilOfDays]
  generalize (days + epochOffset) / 146097 = era at *
  generalize (days + epochOffset) % 146097 = dayOfEra at *
  generalize (yearOfEra dayOfEra).1 = year at *
  generalize (yearOfEra dayOfEra).2 = dayOfYear at *
  generalize (5 * dayOfYear + 2) / 153 = month at *
  have era_year := daysToYear_era era year
  split
  · rename_i early
    have fromMarch : (month + 3 + 9) % 12 = month := by omega
    have notNext : ¬ month + 3 ≤ 2 := by omega
    simp only [daysOfCivil]
    rw [fromMarch, if_neg notNext, era_year]
    omega
  · rename_i late
    have fromMarch : (month - 9 + 9) % 12 = month := by omega
    have next : month - 9 ≤ 2 := by omega
    simp only [daysOfCivil]
    rw [fromMarch, if_pos next, add_sub_cancel_right, era_year]
    omega

theorem civilOfDays_month (days : Int) :
    1 ≤ (civilOfDays days).2.1 ∧ (civilOfDays days).2.1 ≤ 12 := by
  have nonneg : 0 ≤ (days + epochOffset) % 146097 := Int.emod_nonneg _ (by decide)
  have below : (days + epochOffset) % 146097 < 146097 := Int.emod_lt_of_pos _ (by decide)
  obtain ⟨-, first, last⟩ := yearOfEra_spec nonneg below
  obtain ⟨firstMonth, lastMonth⟩ := month_bounds first last
  simp only [civilOfDays]
  split
  · constructor <;> dsimp only <;> omega
  · constructor <;> dsimp only <;> omega

/-- A date is in a month of at most 31 days. -/
theorem civilOfDays_day (days : Int) :
    1 ≤ (civilOfDays days).2.2 ∧ (civilOfDays days).2.2 ≤ 31 := by
  have nonneg : 0 ≤ (days + epochOffset) % 146097 := Int.emod_nonneg _ (by decide)
  have below : (days + epochOffset) % 146097 < 146097 := Int.emod_lt_of_pos _ (by decide)
  obtain ⟨-, first, last⟩ := yearOfEra_spec nonneg below
  simp only [civilOfDays]
  split
  · constructor <;> dsimp only [daysToMonth] <;> omega
  · constructor <;> dsimp only [daysToMonth] <;> omega

/-- The dates from the epoch on that are written with four digits of the year. -/
theorem civilOfDays_year {days : Int} (nonneg : 0 ≤ days) (below : days < 2900000) :
    1969 ≤ (civilOfDays days).1 ∧ (civilOfDays days).1 ≤ 9999 := by
  have first : 0 ≤ (days + epochOffset) % 146097 := Int.emod_nonneg _ (by decide)
  have last : (days + epochOffset) % 146097 < 146097 := Int.emod_lt_of_pos _ (by decide)
  obtain ⟨found, firstDay, lastDay⟩ := yearOfEra_spec first last
  have whole := Int.emod_add_mul_ediv (days + epochOffset) 146097
  have era := daysToYear_era ((days + epochOffset) / 146097)
    (yearOfEra ((days + epochOffset) % 146097)).1
  simp only [civilOfDays]
  generalize (days + epochOffset) / 146097 * 400 +
    (yearOfEra ((days + epochOffset) % 146097)).1 = year at *
  have bounds : 1969 ≤ year ∧ year ≤ 9998 := by
    generalize (days + epochOffset) % 146097 = dayOfEra at *
    simp only [daysToYear, epochOffset] at *
    constructor <;> omega
  split
  · exact ⟨bounds.1, by dsimp only; omega⟩
  · exact ⟨by dsimp only; omega, by dsimp only; omega⟩

/-- The days of a month are numbered on from its first one. -/
theorem daysOfCivil_add (year month day : Int) :
    daysOfCivil year month 1 + (day - 1) = daysOfCivil year month day := by
  simp only [daysOfCivil]
  ring

/-- The seconds of a broken-down time are those that it was broken down from. -/
theorem timegm_gmtime (seconds : Int) : timegm (gmtime seconds) = seconds := by
  obtain ⟨first, last⟩ := civilOfDays_month (seconds / 86400)
  have date := daysOfCivil_civilOfDays (seconds / 86400)
  simp only [timegm, gmtime]
  generalize civilOfDays (seconds / 86400) = civil at *
  have carried : (civil.2.1 - 1) / 12 = 0 := by omega
  have month : (civil.2.1 - 1) % 12 + 1 = civil.2.1 := by omega
  rw [carried, month, sub_add_cancel, add_zero, daysOfCivil_add, date]
  omega

end LatencyTest.Lib
