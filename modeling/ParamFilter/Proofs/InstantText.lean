import Mathlib
import ParamFilter.Instant
import ParamFilter.Proofs.CalendarDays
import ParamFilter.Proofs.Digits

/-!
# The text of an instant

The text of an instant says which instant it is, down to the millisecond. Everything behind the year
has a fixed width, so the text can be taken apart from its end; what is left is the year, whose sign
and digits give the year back, however many digits there are. The day then gives the seconds back, and
a leap second is known by its sixty.

What two instants with one text may differ in is the digits below the millisecond and nothing else.
That the readers of dates accept the text is not said here.
-/

namespace ParamFilter.Instant

/-- Two instants in the same millisecond. A leap second is not the second that follows it. -/
def SameMillisecond (former latter : Instant) : Prop :=
  former.seconds = latter.seconds ∧ former.nanos / 1000000 = latter.nanos / 1000000

/-- Whether two instants are in the same millisecond is a matter of two numbers. -/
instance (former latter : Instant) : Decidable (SameMillisecond former latter) :=
  inferInstanceAs (Decidable (_ ∧ _))

/-- The text of a year is a sign where there is one, and the digits of its magnitude. -/
theorem splitSign_yearText (year : Int) :
    Text.splitSign (yearText year) = (decide (year < 0), Text.padded 4 year.natAbs) := by
  unfold yearText
  split
  · next plain =>
    rw [Text.splitSign_of_isDigits (Text.isDigits_padded _ _)]
    simp [plain.1]
  · by_cases negative : year < 0
    · simp [negative, Text.splitSign]
    · simp [negative, Text.splitSign]

/-- No two years have the same text. -/
theorem yearText_injective : Function.Injective yearText := by
  intro year other same
  have parts := congrArg Text.splitSign same
  rw [splitSign_yearText, splitSign_yearText] at parts
  obtain ⟨signs, digits⟩ := Prod.mk.inj parts
  have magnitudes : year.natAbs = other.natAbs := Text.padded_injective 4 digits
  have sides : year < 0 ↔ other < 0 := decide_eq_decide.mp signs
  omega

/-- The second of the minute has two digits. Only the last second may be a leap second. -/
theorem second_le (instant : Instant) : instant.second ≤ 60 := by
  have bounded := instant.nanos_lt
  have last := instant.leap_last
  unfold second
  omega

/-- Two instants on one day, with the same hour, minute, second and millisecond, are in the same
millisecond. The sixtieth second is the fifty-ninth and a leap. -/
theorem sameMillisecond_of_parts {former latter : Instant}
    (day : former.seconds / 86400 = latter.seconds / 86400)
    (hour : (former.seconds % 86400).toNat / 3600 = (latter.seconds % 86400).toNat / 3600)
    (minute : (former.seconds % 86400).toNat / 60 % 60 = (latter.seconds % 86400).toNat / 60 % 60)
    (second : former.second = latter.second)
    (millis : former.nanos % 1000000000 / 1000000 = latter.nanos % 1000000000 / 1000000) :
    SameMillisecond former latter := by
  have formerBound := former.nanos_lt
  have latterBound := latter.nanos_lt
  have formerLeap := former.leap_last
  have latterLeap := latter.leap_last
  unfold Instant.second at second
  constructor <;> omega

/-- Instants with the same text are in the same millisecond. The text is taken apart from its end,
one number of fixed width after the other, down to the year. -/
theorem sameMillisecond_of_chars {former latter : Instant} (same : former.chars = latter.chars) :
    SameMillisecond former latter := by
  have formerDay := Date.ofDayNumber_exact (former.seconds / 86400)
  have latterDay := Date.ofDayNumber_exact (latter.seconds / 86400)
  have formerSecond := former.second_le
  have latterSecond := latter.second_le
  simp only [chars, date] at same
  obtain ⟨same, _⟩ := List.append_inj' same rfl
  obtain ⟨same, millis⟩ := Text.append_padded_inj (by decide) (by omega) (by omega) same
  obtain ⟨same, second⟩ := Text.append_padded_inj (by decide) (by omega) (by omega) same
  obtain ⟨same, minute⟩ := Text.append_padded_inj (by decide) (by omega) (by omega) same
  obtain ⟨same, hour⟩ := Text.append_padded_inj (by decide) (by omega) (by omega) same
  obtain ⟨same, dayOfMonth⟩ := Text.append_padded_inj (by decide) (by omega) (by omega) same
  obtain ⟨same, month⟩ := Text.append_padded_inj (by decide) (by omega) (by omega) same
  have year := yearText_injective same
  have day : former.seconds / 86400 = latter.seconds / 86400 := by
    apply Date.ofDayNumber_injective
    rw [Date.mk.injEq]
    exact ⟨year, month, dayOfMonth⟩
  exact sameMillisecond_of_parts day hour minute second millis

/-- Instants in the same millisecond have the same text, because the text looks at nothing below. -/
theorem chars_of_sameMillisecond {former latter : Instant} (same : SameMillisecond former latter) :
    former.chars = latter.chars := by
  obtain ⟨seconds, millis⟩ := same
  have leap : former.nanos / 1000000000 = latter.nanos / 1000000000 := by omega
  have part : former.nanos % 1000000000 / 1000000 = latter.nanos % 1000000000 / 1000000 := by omega
  simp only [chars, date, second, seconds, leap, part]

/-- The text of an instant determines it to the millisecond, and nothing beyond. -/
theorem text_eq_iff {former latter : Instant} :
    former.text = latter.text ↔ SameMillisecond former latter := by
  rw [text, text, String.ofList_inj]
  exact ⟨sameMillisecond_of_chars, chars_of_sameMillisecond⟩

/-- The leap second at the end of 2016 and the second behind it have the same count of milliseconds, but
not the same text. -/
example :
    let leap : Instant := ⟨1483228799, 1000000000, by decide, by decide, by decide⟩
    let next : Instant := ⟨1483228800, 0, by decide, by decide, by decide⟩
    leap.millis = next.millis ∧ ¬SameMillisecond leap next := by decide

end ParamFilter.Instant
