import ParamFilter.Calendar
import ParamFilter.Text.Integer

/-!
# Instants

A moment in universal time with nanoseconds, within some 262 thousand years of the epoch. A leap second
counts as the second before it, stretched: its nanoseconds go on beyond one thousand million. Only the
last second of a minute can be stretched in this way. Instants are written with milliseconds, and the
digits below are dropped.
-/

namespace ParamFilter

/-- The first year that instants reach. -/
def minYear : Int := -262143

/-- The last year that instants reach. -/
def maxYear : Int := 262142

/-- A moment in universal time: whole seconds from the start of 1970, and nanoseconds. -/
structure Instant where
  seconds : Int
  nanos : Nat
  inRange : Date.dayNumber ⟨minYear, 1, 1⟩ * 86400 ≤ seconds ∧
    seconds < (Date.dayNumber ⟨maxYear, 12, 31⟩ + 1) * 86400
  nanos_lt : nanos < 2000000000
  leap_last : 1000000000 ≤ nanos → seconds % 60 = 59
  deriving DecidableEq

namespace Instant

/-- The instant of these parts, if there is one. -/
def ofParts? (seconds : Int) (nanos : Nat) : Option Instant :=
  if valid : (Date.dayNumber ⟨minYear, 1, 1⟩ * 86400 ≤ seconds ∧
      seconds < (Date.dayNumber ⟨maxYear, 12, 31⟩ + 1) * 86400) ∧ nanos < 2000000000 ∧
      (1000000000 ≤ nanos → seconds % 60 = 59) then
    some ⟨seconds, nanos, valid.1, valid.2.1, valid.2.2⟩
  else none

/-- The instant so many milliseconds from the start of 1970. -/
def ofMillis? (millis : Int) : Option Instant :=
  ofParts? (millis / 1000) ((millis % 1000).toNat * 1000000)

/-- The milliseconds from the start of 1970, rounded down. A leap second counts on. -/
def millis (instant : Instant) : Int := instant.seconds * 1000 + instant.nanos / 1000000

/-- The day on which an instant falls. -/
def date (instant : Instant) : Date := .ofDayNumber (instant.seconds / 86400)

/-- The second of the minute. A leap second is the sixtieth. -/
def second (instant : Instant) : Nat :=
  (instant.seconds % 60).toNat + instant.nanos / 1000000000

/-- The text of a year: four digits, and a sign where four digits do not do. -/
def yearText (year : Int) : List Char :=
  if 0 ≤ year ∧ year ≤ 9999 then Text.padded 4 year.natAbs
  else (if year < 0 then '-' else '+') :: Text.padded 4 year.natAbs

/-- The text of an instant, with three places of the second and the mark of universal time. -/
def chars (instant : Instant) : List Char :=
  let date := instant.date
  let inDay := (instant.seconds % 86400).toNat
  yearText date.year ++ '-' :: Text.padded 2 date.month ++ '-' :: Text.padded 2 date.day ++
    'T' :: Text.padded 2 (inDay / 3600) ++ ':' :: Text.padded 2 (inDay / 60 % 60) ++
    ':' :: Text.padded 2 instant.second ++
    '.' :: Text.padded 3 (instant.nanos % 1000000000 / 1000000) ++ ['Z']

/-- The text of an instant. -/
def text (instant : Instant) : String := String.ofList instant.chars

end Instant

end ParamFilter
