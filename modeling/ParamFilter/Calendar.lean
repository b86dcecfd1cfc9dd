/-!
# Calendar days

The Gregorian calendar, extended without end in both directions, and the number of each day counted
from the first of January 1970. Years are counted from March to February here, so that the leap day is
the last of its year and a month starts at the same day of every year.
-/

namespace ParamFilter

/-- A day of the calendar. -/
structure Date where
  year : Int
  month : Nat
  day : Nat
  deriving DecidableEq, Repr

namespace Date

/-- Whether a year has a leap day. -/
def isLeap (year : Int) : Bool := year % 4 = 0 && (year % 100 ≠ 0 || year % 400 = 0)

/-- How many days a month has; a month out of range has none. -/
def monthLength (year : Int) (month : Nat) : Nat :=
  match month with
  | 1 | 3 | 5 | 7 | 8 | 10 | 12 => 31
  | 4 | 6 | 9 | 11 => 30
  | 2 => if isLeap year then 29 else 28
  | _ => 0

/-- Whether the calendar has the day. -/
def isValid (date : Date) : Bool := 1 ≤ date.day && date.day ≤ monthLength date.year date.month

/-- The day number of the first of January 1970, counted from the first of March of year zero. -/
def epoch : Int := 719468

/-- The days before March of a year, counted from March of year zero. -/
def daysBeforeYear (year : Int) : Int := 365 * year + year / 4 - year / 100 + year / 400

/-- The days before a month of a year that starts in March, where March is month zero. -/
def daysBeforeMonth (month : Int) : Int := (153 * month + 2) / 5

/-- The number of a day, counted from the first of January 1970. -/
def dayNumber (date : Date) : Int :=
  let early := date.month ≤ 2
  let year := if early then date.year - 1 else date.year
  let month : Int := if early then date.month + 9 else date.month - 3
  daysBeforeYear year + daysBeforeMonth month + date.day - 1 - epoch

/-- The years that start in March and end before a day, and the days of the next such year before it.
    The days are split into spans of 400, 100, 4 and one years; the last span of a hundred years and the
    last year of four may be a day longer than the others. -/
def splitYear (days : Int) : Int × Int :=
  let era := days / 146097
  let inEra := days % 146097
  let century := min (inEra / 36524) 3
  let inCentury := inEra - 36524 * century
  let four := inCentury / 1461
  let inFour := inCentury % 1461
  let single := min (inFour / 365) 3
  (400 * era + 100 * century + 4 * four + single, inFour - 365 * single)

/-- The day with a number. -/
def ofDayNumber (number : Int) : Date :=
  let (year, inYear) := splitYear (number + epoch)
  let month := (5 * inYear + 2) / 153
  let day := inYear - daysBeforeMonth month + 1
  if month < 10 then ⟨year, (month + 3).toNat, day.toNat⟩
  else ⟨year + 1, (month - 9).toNat, day.toNat⟩

/-- The days of the week, from Monday. -/
def weekday (date : Date) : Nat := ((date.dayNumber + 3) % 7).toNat

example : dayNumber ⟨1970, 1, 1⟩ = 0 ∧ dayNumber ⟨2000, 2, 29⟩ = 11016 := by decide
example : ofDayNumber 11016 = ⟨2000, 2, 29⟩ ∧ ofDayNumber (-719529) = ⟨-1, 12, 31⟩ := by decide
example : weekday ⟨2024, 1, 1⟩ = 0 := by decide

end Date

end ParamFilter
