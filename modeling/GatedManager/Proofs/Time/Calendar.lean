import GatedManager.Time.Calendar
import Mathlib.Tactic.IntervalCases
import Mathlib.Tactic.NormNum

/-!
# The calendar's numbering

Years are counted from 1 March inside an era. A day of an era splits into whole centuries, whole
cycles of four years, whole years and a rest, the leap day being the last one of a year. From this
splitting the year of a numbered day is read off, the day exists, and it has the number again.
-/

namespace GatedManager.CivilDate

/-- Only the last century of an era has a leap day at its end, and only the last year of a cycle
does. -/
theorem exists_cycle {day : Int} (nonneg : 0 ≤ day) (lt : day < 146097) :
    ∃ century cycle year rest : Int,
      day = 36524 * century + 1461 * cycle + 365 * year + rest ∧
      0 ≤ century ∧ century ≤ 3 ∧ 0 ≤ cycle ∧ cycle ≤ 24 ∧ 0 ≤ year ∧ year ≤ 3 ∧
      0 ≤ rest ∧ rest ≤ 365 ∧ (rest = 365 → year = 3 ∧ (cycle = 24 → century = 3)) := by
  obtain ⟨century, left, rfl, century_nonneg, century_le, left_nonneg, left_le, full⟩ :
      ∃ century left : Int, day = 36524 * century + left ∧ 0 ≤ century ∧ century ≤ 3 ∧
        0 ≤ left ∧ left ≤ 36524 ∧ (left = 36524 → century = 3) := by
    by_cases last : day = 146096
    · exact ⟨3, 36524, by omega⟩
    · exact ⟨day / 36524, day % 36524, by omega⟩
  obtain ⟨cycle, short, rfl, cycle_nonneg, cycle_le, short_nonneg, short_lt, brief⟩ :
      ∃ cycle short : Int, left = 1461 * cycle + short ∧ 0 ≤ cycle ∧ cycle ≤ 24 ∧
        0 ≤ short ∧ short < 1461 ∧ (short = 1460 → cycle = 24 → century = 3) :=
    ⟨left / 1461, left % 1461, by omega⟩
  by_cases leap : short = 1460
  · exact ⟨century, cycle, 3, 365, by omega⟩
  · exact ⟨century, cycle, short / 365, short % 365, by omega⟩

/-- The year of an era: the quotients taken off the day number are its leap days. -/
theorem yearOfEra_eq {century cycle year rest day : Int}
    (day_eq : day = 36524 * century + 1461 * cycle + 365 * year + rest)
    (century_nonneg : 0 ≤ century) (century_le : century ≤ 3)
    (cycle_nonneg : 0 ≤ cycle) (cycle_le : cycle ≤ 24)
    (year_nonneg : 0 ≤ year) (year_le : year ≤ 3) (rest_nonneg : 0 ≤ rest) (rest_le : rest ≤ 365)
    (leap : rest = 365 → year = 3 ∧ (cycle = 24 → century = 3)) :
    (day - day / 1460 + day / 36524 - day / 146096) / 365 = 100 * century + 4 * cycle + year := by
  have year_days : 365 * year + rest ≤ 1460 := by omega
  have century_days : 1461 * cycle + 365 * year + rest ≤ 36524 := by omega
  have last : 1461 * cycle + 365 * year + rest = 36524 → century = 3 := by omega
  generalize days_eq : 365 * year + rest = days at *
  have centuries : day / 36524 - day / 146096 = century := by
    by_cases full : 1461 * cycle + days = 36524
    · obtain rfl : century = 3 := by omega
      omega
    · have : day / 36524 = century := by omega
      have : day / 146096 = 0 := by omega
      omega
  have cycles : day / 1460 = 25 * century + cycle + (24 * century + cycle + days) / 1460 := by
    omega
  by_cases wraps : 1460 ≤ 24 * century + cycle + days
  · have : (24 * century + cycle + days) / 1460 = 1 := by omega
    have : year = 3 := by omega
    omega
  · have : (24 * century + cycle + days) / 1460 = 0 := by omega
    omega

/-- The day of a year that begins on 1 March, both counted from zero. -/
def ofMarch (year dayOfYear : Int) : CivilDate :=
  let monthFromMarch := (5 * dayOfYear + 2) / 153
  let month := if monthFromMarch < 10 then monthFromMarch + 3 else monthFromMarch - 9
  ⟨year + (if month ≤ 2 then 1 else 0), month.toNat,
    (dayOfYear - (153 * monthFromMarch + 2) / 5 + 1).toNat⟩

theorem ofDays_eq {days day era yearOfEra : Int} (day_eq : (days + epochOffset) % daysPerEra = day)
    (era_eq : (days + epochOffset) / daysPerEra = era)
    (year_eq : (day - day / 1460 + day / 36524 - day / 146096) / 365 = yearOfEra) :
    ofDays days = ofMarch (yearOfEra + era * 400)
      (day - (365 * yearOfEra + yearOfEra / 4 - yearOfEra / 100)) := by
  subst year_eq day_eq era_eq
  simp only [ofDays, ofMarch]

theorem isLeap_iff (year : Int) :
    isLeap year = true ↔ year % 4 = 0 ∧ year % 100 ≠ 0 ∨ year % 400 = 0 := by
  simp [isLeap]

theorem exists_ofMarch (days : Int) :
    ∃ year dayOfYear : Int, ofDays days = ofMarch year dayOfYear ∧
      0 ≤ dayOfYear ∧ dayOfYear ≤ 365 ∧ (dayOfYear = 365 → isLeap (year + 1) = true) ∧
      days = 365 * year + year / 4 - year / 100 + year / 400 + dayOfYear - epochOffset := by
  have day_nonneg := Int.emod_nonneg (days + epochOffset) (b := daysPerEra) (by decide)
  have day_lt := Int.emod_lt_of_pos (days + epochOffset) (b := daysPerEra) (by decide)
  have days_eq := Int.mul_ediv_add_emod (days + epochOffset) daysPerEra
  have unfolded := @ofDays_eq days _ _ _ rfl rfl rfl
  generalize (days + epochOffset) % daysPerEra = day at *
  generalize (days + epochOffset) / daysPerEra = era at *
  obtain ⟨century, cycle, year, rest, day_eq, century_nonneg, century_le, cycle_nonneg, cycle_le,
    year_nonneg, year_le, rest_nonneg, rest_le, leap⟩ := exists_cycle day_nonneg day_lt
  rw [yearOfEra_eq day_eq century_nonneg century_le cycle_nonneg cycle_le year_nonneg year_le
    rest_nonneg rest_le leap] at unfolded
  have cycles : (100 * century + 4 * cycle + year) / 4 = 25 * century + cycle := by omega
  have centuries : (100 * century + 4 * cycle + year) / 100 = century := by omega
  have rest_eq : day - (365 * (100 * century + 4 * cycle + year) +
        (100 * century + 4 * cycle + year) / 4 -
        (100 * century + 4 * cycle + year) / 100) = rest := by
    rw [cycles, centuries, day_eq]
    omega
  rw [rest_eq] at unfolded
  refine ⟨_, _, unfolded, rest_nonneg, rest_le, fun full => ?_, ?_⟩
  · obtain ⟨rfl, last⟩ := leap full
    rw [isLeap_iff]
    by_cases ends : cycle = 24
    · obtain rfl := ends
      obtain rfl := last rfl
      right
      omega
    · left
      omega
  · have fours : (100 * century + 4 * cycle + year + era * 400) / 4 =
        25 * century + cycle + 100 * era := by omega
    have hundreds : (100 * century + 4 * cycle + year + era * 400) / 100 = century + 4 * era := by
      omega
    have eras : (100 * century + 4 * cycle + year + era * 400) / 400 = era := by omega
    rw [fours, hundreds, eras]
    simp only [daysPerEra] at days_eq
    omega

theorem toDays_ofMarch {year dayOfYear : Int} (nonneg : 0 ≤ dayOfYear) (le : dayOfYear ≤ 365) :
    (ofMarch year dayOfYear).toDays =
      365 * year + year / 4 - year / 100 + year / 400 + dayOfYear - epochOffset := by
  have eras : year / 400 * daysPerEra + year % 400 * 365 + year % 400 / 4 - year % 400 / 100 =
      365 * year + year / 4 - year / 100 + year / 400 := by
    have fours : year / 4 = year / 400 * 100 + year % 400 / 4 := by omega
    have hundreds : year / 100 = year / 400 * 4 + year % 400 / 100 := by omega
    simp only [daysPerEra]
    omega
  obtain ⟨month, month_eq, month_nonneg, month_le⟩ :
      ∃ month : Int, (5 * dayOfYear + 2) / 153 = month ∧ 0 ≤ month ∧ month ≤ 11 :=
    ⟨_, rfl, by omega, by omega⟩
  rw [← eras]
  simp only [ofMarch, toDays, month_eq]
  generalize epochOffset = offset
  clear eras
  interval_cases month <;> norm_num <;> omega

theorem isValid_ofMarch {year dayOfYear : Int} (nonneg : 0 ≤ dayOfYear) (le : dayOfYear ≤ 365)
    (leap : dayOfYear = 365 → isLeap (year + 1) = true) :
    (ofMarch year dayOfYear).isValid = true := by
  obtain ⟨month, month_eq, month_nonneg, month_le⟩ :
      ∃ month : Int, (5 * dayOfYear + 2) / 153 = month ∧ 0 ≤ month ∧ month ≤ 11 :=
    ⟨_, rfl, by omega, by omega⟩
  simp only [ofMarch, month_eq, isValid, Bool.and_eq_true, decide_eq_true_eq]
  obtain rfl | before_february : month = 11 ∨ month ≤ 10 := by omega
  · by_cases long : isLeap (year + 1) = true
    · norm_num [daysInMonth, long]
      omega
    · have : dayOfYear ≠ 365 := fun full => long (leap full)
      norm_num [daysInMonth, long]
      omega
  · interval_cases month <;> norm_num [daysInMonth] <;> omega

/-- The numbering loses no day. -/
theorem toDays_ofDays (days : Int) : (ofDays days).toDays = days := by
  obtain ⟨year, dayOfYear, ofDays_eq, nonneg, le, -, days_eq⟩ := exists_ofMarch days
  rw [ofDays_eq, toDays_ofMarch nonneg le, days_eq]

theorem isValid_ofDays (days : Int) : (ofDays days).isValid = true := by
  obtain ⟨year, dayOfYear, ofDays_eq, nonneg, le, leap, -⟩ := exists_ofMarch days
  rw [ofDays_eq]
  exact isValid_ofMarch nonneg le leap

end GatedManager.CivilDate
