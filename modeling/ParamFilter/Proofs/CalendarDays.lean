import Mathlib
import ParamFilter.Calendar

/-!
# Days and their numbers

The day that is found for a number has that number, and it is a day of the calendar. The way from the
number to the day splits off four centuries, centuries, groups of four years and single years, and then
months; each part has a bound of its own, and the bounds are what makes the way back exact. All numbers
are covered, before the epoch as well as behind it.

The other direction, that every valid day is found by its number, is not a matter of this module.
-/

namespace ParamFilter.Date

/-- The days before a year, by its four parts. No part is so large that it would carry into the
next, so the three quotients in the count of leap days can be read off. -/
theorem daysBeforeYear_parts {era century four single : Int} (centuries : 0 ≤ century ∧ century ≤ 3)
    (fours : 0 ≤ four ∧ four ≤ 24) (singles : 0 ≤ single ∧ single ≤ 3) :
    daysBeforeYear (400 * era + 100 * century + 4 * four + single) =
      146097 * era + 36524 * century + 1461 * four + 365 * single := by
  have byFour : (400 * era + 100 * century + 4 * four + single) / 4 =
      100 * era + 25 * century + four := by omega
  have byCentury : (400 * era + 100 * century + 4 * four + single) / 100 = 4 * era + century := by
    omega
  have byEra : (400 * era + 100 * century + 4 * four + single) / 400 = era := by omega
  rw [daysBeforeYear, byFour, byCentury, byEra]
  ring

/-- Splitting off years loses no day, and what is left is less than a leap year.

Each part is bounded before the next one is split off: the last century of an era and the last year
of a group may be a day longer than the others, which is what the two minima are for. -/
theorem splitYear_exact (days : Int) :
    daysBeforeYear (splitYear days).1 + (splitYear days).2 = days ∧
      0 ≤ (splitYear days).2 ∧ (splitYear days).2 ≤ 365 := by
  simp only [splitYear]
  have whole : 146097 * (days / 146097) + days % 146097 = days := by omega
  have inEra : 0 ≤ days % 146097 ∧ days % 146097 ≤ 146096 := by omega
  generalize days / 146097 = era, days % 146097 = ofEra at *
  have centuries : 0 ≤ min (ofEra / 36524) 3 ∧ min (ofEra / 36524) 3 ≤ 3 := by omega
  have inCentury : 0 ≤ ofEra - 36524 * min (ofEra / 36524) 3 ∧
      ofEra - 36524 * min (ofEra / 36524) 3 ≤ 36524 := by omega
  generalize min (ofEra / 36524) 3 = century at *
  have fours : 0 ≤ (ofEra - 36524 * century) / 1461 ∧ (ofEra - 36524 * century) / 1461 ≤ 24 := by
    omega
  have inFour : 0 ≤ (ofEra - 36524 * century) % 1461 ∧
      (ofEra - 36524 * century) % 1461 ≤ 1460 := by omega
  have ofCentury : 1461 * ((ofEra - 36524 * century) / 1461) + (ofEra - 36524 * century) % 1461 =
      ofEra - 36524 * century := by omega
  generalize (ofEra - 36524 * century) / 1461 = four,
    (ofEra - 36524 * century) % 1461 = ofFour at *
  have singles : 0 ≤ min (ofFour / 365) 3 ∧ min (ofFour / 365) 3 ≤ 3 := by omega
  rw [daysBeforeYear_parts centuries fours singles]
  omega

/-- The day that a number stands for has this number, and its month and its day are in range.

Years are split off exactly. What is left has at most 366 days, so the months of a year that starts in
March can be read off, and the cases are the two ends of that year. -/
theorem ofDayNumber_exact (number : Int) :
    (ofDayNumber number).dayNumber = number ∧
      (1 ≤ (ofDayNumber number).month ∧ (ofDayNumber number).month ≤ 12) ∧
      1 ≤ (ofDayNumber number).day ∧ (ofDayNumber number).day ≤ 31 := by
  obtain ⟨whole, positive, bounded⟩ := splitYear_exact (number + epoch)
  unfold ofDayNumber
  generalize splitYear (number + epoch) = parts at *
  obtain ⟨year, inYear⟩ := parts
  simp only [daysBeforeMonth] at *
  have months : 0 ≤ (5 * inYear + 2) / 153 ∧ (5 * inYear + 2) / 153 ≤ 11 := by omega
  have days : 0 ≤ inYear - (153 * ((5 * inYear + 2) / 153) + 2) / 5 ∧
      inYear - (153 * ((5 * inYear + 2) / 153) + 2) / 5 ≤ 30 := by omega
  split
  · next sameYear =>
    refine ⟨?_, by simp only; omega, by simp only; omega⟩
    have late : ¬((5 * inYear + 2) / 153 + 3).toNat ≤ 2 := by omega
    have month : (((5 * inYear + 2) / 153 + 3).toNat : Int) - 3 = (5 * inYear + 2) / 153 := by omega
    simp only [dayNumber, daysBeforeMonth, late, if_false, month]
    omega
  · next nextYear =>
    refine ⟨?_, by simp only; omega, by simp only; omega⟩
    have early : ((5 * inYear + 2) / 153 - 9).toNat ≤ 2 := by omega
    have month : (((5 * inYear + 2) / 153 - 9).toNat : Int) + 9 = (5 * inYear + 2) / 153 := by omega
    simp only [dayNumber, daysBeforeMonth, early, if_true, month, add_sub_cancel_right]
    omega

/-- A year in which more than 365 days go by ends with a leap day. So many days are left only in the last
year of a group of four, and the last group of a century has them only where the century is the last of its
era. -/
theorem isLeap_of_splitYear {days : Int} (long : (splitYear days).2 = 365) :
    isLeap ((splitYear days).1 + 1) = true := by
  simp only [splitYear] at long ⊢
  have inEra : 0 ≤ days % 146097 ∧ days % 146097 ≤ 146096 := by omega
  generalize days / 146097 = era, days % 146097 = ofEra at *
  have centuries : 0 ≤ min (ofEra / 36524) 3 ∧ min (ofEra / 36524) 3 ≤ 3 := by omega
  have inCentury : 0 ≤ ofEra - 36524 * min (ofEra / 36524) 3 ∧
      ofEra - 36524 * min (ofEra / 36524) 3 ≤ 36524 ∧
      (ofEra - 36524 * min (ofEra / 36524) 3 = 36524 → min (ofEra / 36524) 3 = 3) := by omega
  generalize min (ofEra / 36524) 3 = century at *
  generalize ofEra - 36524 * century = ofCentury at *
  have single : min (ofCentury % 1461 / 365) 3 = 3 := by omega
  have whole : ofCentury % 1461 = 1460 := by omega
  have fours : 0 ≤ ofCentury / 1461 ∧ (ofCentury / 1461 ≤ 23 ∨ ofCentury / 1461 = 24 ∧ century = 3) := by
    omega
  generalize ofCentury / 1461 = four at *
  rw [single]
  simp only [isLeap, Bool.and_eq_true, Bool.or_eq_true, decide_eq_true_eq]
  rcases fours with ⟨positive, early | ⟨rfl, rfl⟩⟩
  · omega
  · omega

theorem isValid_iff {date : Date} :
    date.isValid = true ↔ 1 ≤ date.day ∧ date.day ≤ monthLength date.year date.month := by
  simp [isValid]

/-- The days from the start of a month to the start of the next, in the part of a year from March on that
lies in the same calendar year. -/
theorem monthLength_of_late (year : Int) {month : Int} (positive : 0 ≤ month) (late : month < 10) :
    (monthLength year (month + 3).toNat : Int) = daysBeforeMonth (month + 1) - daysBeforeMonth month := by
  interval_cases month <;> rfl

/-- Every number stands for a day of the calendar.

The days that are left after the years are less than a leap year, and each month of a year that starts in
March takes its length of them. The last of these months is February, whose length depends on the year. -/
theorem isValid_ofDayNumber (number : Int) : (ofDayNumber number).isValid = true := by
  obtain ⟨_, positive, bounded⟩ := splitYear_exact (number + epoch)
  have leap : (splitYear (number + epoch)).2 = 365 → isLeap ((splitYear (number + epoch)).1 + 1) = true :=
    isLeap_of_splitYear
  rw [isValid_iff]
  unfold ofDayNumber
  generalize splitYear (number + epoch) = parts at *
  obtain ⟨year, inYear⟩ := parts
  simp only at positive bounded leap ⊢
  have months : 0 ≤ (5 * inYear + 2) / 153 ∧ (5 * inYear + 2) / 153 ≤ 11 := by omega
  have inMonth : daysBeforeMonth ((5 * inYear + 2) / 153) ≤ inYear ∧
      inYear < daysBeforeMonth ((5 * inYear + 2) / 153 + 1) := by
    simp only [daysBeforeMonth]
    omega
  generalize (5 * inYear + 2) / 153 = month at *
  split
  · next sameYear =>
    have length := monthLength_of_late year months.1 sameYear
    simp only
    omega
  · next nextYear =>
    obtain rfl | rfl : month = 10 ∨ month = 11 := by omega
    · have january : monthLength (year + 1) (10 - 9 : Int).toNat = 31 := rfl
      simp only [january, daysBeforeMonth] at inMonth ⊢
      omega
    · have february : monthLength (year + 1) (11 - 9 : Int).toNat =
          if isLeap (year + 1) then 29 else 28 := rfl
      simp only [february, daysBeforeMonth] at inMonth ⊢
      split
      · omega
      · next common =>
        have short : inYear ≠ 365 := fun long => common (leap long)
        omega

/-- Different numbers stand for different days. -/
theorem ofDayNumber_injective : Function.Injective ofDayNumber := by
  intro number other same
  rw [← (ofDayNumber_exact number).1, same, (ofDayNumber_exact other).1]

end ParamFilter.Date
