import Mathlib
import ParamFilter.Proofs.CalendarDays
import ParamFilter.Proofs.DateReaders
import ParamFilter.Proofs.InstantText

/-!
# The forms of a date agree

An instant in a year of four digits is written in several forms: with its milliseconds as it is rendered,
as a count of milliseconds, and, where nothing is lost by it, with a whole second or as a day alone. Each of
these texts gives the instant back. The forms are tried in a fixed order, so a text is followed through the
forms before its own, which fail on it; and the parts that are read are put together by the way back from a
day to its number.

Texts that are not written in this way, with a zone or with blanks inside, are not spoken of here.
-/

namespace ParamFilter.Instant

section Parts

variable (instant : Instant)

/-- The instant without the digits below the millisecond. -/
def truncated : Instant where
  seconds := instant.seconds
  nanos := instant.nanos / 1000000 * 1000000
  inRange := instant.inRange
  nanos_lt := by have := instant.nanos_lt; omega
  leap_last := fun leap => instant.leap_last (by omega)

/-- The parts of an instant as they are written, down to the millisecond. -/
def written : Written where
  date := instant.date
  hour := (instant.seconds % 86400).toNat / 3600
  minute := (instant.seconds % 86400).toNat / 60 % 60
  second := instant.second
  nanos := instant.nanos % 1000000000 / 1000000 * 1000000
  offset := 0

/-- The day of an instant, as in `2024-03-01`. -/
def dayText : String := String.ofList instant.written.dayChars

/-- The time of day of an instant, as in `12:30:00`. -/
def clockText : String := String.ofList instant.written.clockChars

/-- The parts of an instant are parts of an instant. -/
theorem ofParts?_self : ofParts? instant.seconds instant.nanos = some instant :=
  dif_pos ⟨instant.inRange, instant.nanos_lt, instant.leap_last⟩

/-- The sixtieth second is a leap second, and no other is one. -/
theorem second_eq_sixty_iff : instant.second = 60 ↔ 1000000000 ≤ instant.nanos := by
  have bounded := instant.nanos_lt
  have last := instant.leap_last
  unfold second
  omega

end Parts

section FourDigits

variable {instant : Instant} (years : 0 ≤ instant.date.year ∧ instant.date.year ≤ 9999)

include years

/-- The parts of an instant fit the digits that they are written with. -/
theorem written_fits : instant.written.Fits := by
  obtain ⟨_, months, days⟩ := Date.ofDayNumber_exact (instant.seconds / 86400)
  have second := instant.second_le
  refine ⟨years, ?_, ?_, ?_, ?_, ?_⟩ <;> simp only [written, date] <;> omega

/-- The parts that are written make up the instant again.

The day has the number that it was found for, and the calendar has it. The sixtieth second counts as the
fifty-ninth, and only a leap second is a sixtieth. -/
theorem instant?_written : instant.written.instant? = some instant.truncated := by
  obtain ⟨number, _⟩ := Date.ofDayNumber_exact (instant.seconds / 86400)
  have valid : instant.date.isValid = true := Date.isValid_ofDayNumber _
  have bounded := instant.nanos_lt
  have last := instant.leap_last
  have second := instant.second_le
  have parts : instant.written.instant? = ofParts?
      (instant.date.dayNumber * 86400 + (3600 * instant.written.hour + 60 * instant.written.minute +
        min instant.second 59 : Nat) - 0)
      ((if instant.second = 60 then 1000000000 else 0) +
        instant.nanos % 1000000000 / 1000000 * 1000000) := by
    -- Two digits leave room for more than a clock has, so each part is bounded by where it comes from.
    refine if_pos ⟨valid, ?_, ?_, ?_, ?_, second, ?_⟩ <;> simp only [written, minYear, maxYear] <;> omega
  have seconds : instant.date.dayNumber * 86400 + (3600 * instant.written.hour +
      60 * instant.written.minute + min instant.second 59 : Nat) - 0 = instant.seconds := by
    simp only [written, date, number, Instant.second]
    omega
  have nanos : (if instant.second = 60 then 1000000000 else 0) +
      instant.nanos % 1000000000 / 1000000 * 1000000 = instant.truncated.nanos := by
    simp only [truncated]
    by_cases leap : 1000000000 ≤ instant.nanos
    · rw [if_pos (instant.second_eq_sixty_iff.mpr leap)]
      omega
    · rw [if_neg (mt instant.second_eq_sixty_iff.mp leap)]
      omega
  rw [parts, seconds, nanos]
  exact instant.truncated.ofParts?_self

/-- The text of an instant is its day and its time with three places behind the second. -/
theorem chars_eq : instant.chars = instant.written.dayChars ++ 'T' :: (instant.written.clockChars ++
    '.' :: (Text.padded 3 (instant.nanos % 1000000000 / 1000000) ++ ['Z'])) := by
  simp [chars, yearText, years, Written.dayChars, Written.clockChars, written]

end FourDigits

section Forms

/-- Blanks around a text do not change what it is read as. -/
theorem ofText?_surrounded {before after : String}
    (blankBefore : ∀ c ∈ before.toList, Text.isBlank c = true)
    (blankAfter : ∀ c ∈ after.toList, Text.isBlank c = true) (value : String) :
    ofText? (before ++ value ++ after) = ofText? value := by
  have same : Text.trim (before ++ value ++ after).toList = Text.trim value.toList := by
    rw [String.toList_append, String.toList_append, List.append_assoc]
    exact Text.trim_surrounded blankBefore blankAfter value.toList
  rw [ofText?, ofText?, same]

/-- The first form that reads a text decides, if what it reads is an instant. A text that begins with a day
is not a count of milliseconds. -/
theorem ofText?_of_form {day found : Written} {rest : List Char} {earlier later : List (Reader Written)}
    {form : Reader Written} {instant : Instant} (order : forms = earlier ++ form :: later)
    (tight : Text.Tight (day.dayChars ++ rest))
    (failed : ∀ other ∈ earlier, other (day.dayChars ++ rest) = none)
    (read : form (day.dayChars ++ rest) = some (found, [])) (made : found.instant? = some instant) :
    ofText? (String.ofList (day.dayChars ++ rest)) = some instant := by
  have apart := isTimestampNumber_dayChars_append day rest
  -- That the text begins with a day has been said, and the rest is about the list of forms.
  generalize day.dayChars ++ rest = text at *
  have passed : earlier.findSome? (fun other => (other.run text).bind Written.instant?) = none :=
    List.findSome?_eq_none_iff.mpr fun other member => by
      rw [Reader.run_of_eq_none (failed other member), Option.bind_none]
  rw [ofText?, String.toList_ofList, tight.trim_eq, apart, order, List.findSome?_append, passed,
    Option.none_or, List.findSome?_cons, Reader.run_of_eq_some read, Option.bind_some, made]
  rfl

/-- A count of milliseconds is an integer, with a minus sign or without a sign. -/
theorem isTimestampNumber_toString (n : Int) : isTimestampNumber (toString n).toList = true := by
  have digits := Text.isDigits_toDigits n.natAbs
  rw [Text.toList_toString]
  split
  · exact digits
  · unfold isTimestampNumber
    split
    · next eq =>
      rw [eq] at digits
      exact absurd ((Text.isDigits_iff.mp digits).2 '-' List.mem_cons_self) (by decide)
    · exact digits

variable {instant : Instant}

/-- Nothing is lost by the form with milliseconds, if there is nothing below them. -/
theorem truncated_eq_self (inMillis : instant.nanos % 1000000 = 0) : instant.truncated = instant := by
  have nanos : instant.nanos / 1000000 * 1000000 = instant.nanos := by omega
  cases instant
  simpa [truncated] using nanos

/-- Without a part of a second the parts are those of the forms that have no place for one. -/
theorem written_whole (whole : instant.nanos = 0) : instant.written =
    ⟨instant.written.date, instant.written.hour, instant.written.minute, instant.written.second, 0, 0⟩ := by
  simp [written, whole]

/-- The count of milliseconds of an instant gives it back, in any year. No count is too large for a word. -/
theorem ofText?_millis (common : instant.nanos < 1000000000) (inMillis : instant.nanos % 1000000 = 0) :
    ofText? (toString instant.millis) = some instant := by
  have range := instant.inRange
  have first : Date.dayNumber ⟨minYear, 1, 1⟩ = -96465292 := by decide
  have last : Date.dayNumber ⟨maxYear, 12, 31⟩ = 95026236 := by decide
  have word : Text.word64? instant.millis = some instant.millis := by
    refine if_pos ?_
    unfold millis
    omega
  have seconds : instant.millis / 1000 = instant.seconds := by
    unfold millis
    omega
  have nanos : (instant.millis % 1000).toNat * 1000000 = instant.nanos := by
    unfold millis
    omega
  rw [ofText?, (Text.tight_toString _).trim_eq, isTimestampNumber_toString, if_pos rfl,
    Text.int?_toString, word, Option.bind_some, ofMillis?, seconds, nanos]
  exact instant.ofParts?_self

variable (years : 0 ≤ instant.date.year ∧ instant.date.year ≤ 9999)

include years

/-- The text of an instant is read as a timestamp. -/
theorem ofText?_text : ofText? instant.text = some instant.truncated := by
  have order : forms = [] ++ timestamp :: forms.tail := rfl
  have spelled := chars_eq years
  have tight : Text.Tight instant.chars := by
    have ends := instant.written.tight_dayChars.append (Text.tight_singleton (rfl : Text.isBlank 'Z' = false))
      ('T' :: (instant.written.clockChars ++ '.' :: Text.padded 3 (instant.nanos % 1000000000 / 1000000)))
    simpa [spelled] using ends
  have read : timestamp instant.chars = some (instant.written, []) := by
    rw [spelled]
    exact timestamp_of_fraction (written_fits years) (by omega) rfl
  rw [text]
  rw [spelled] at tight read ⊢
  exact ofText?_of_form order tight (by simp) read (instant?_written years)

section WholeSeconds

variable (whole : instant.nanos = 0)

include whole

theorem instant?_whole : instant.written.instant? = some instant := by
  rw [instant?_written years, truncated_eq_self (by rw [whole])]

/-- What stands between a day and a time has to be taken by the form, and the forms before it have to fail. -/
theorem ofText?_of_clock {c : Char} {between : Reader Unit} {earlier later : List (Reader Written)}
    (order : forms = earlier ++ looseDateTime between :: later)
    (failed : ∀ other ∈ earlier, other (instant.written.dayChars ++ c :: instant.written.clockChars) = none)
    (taken : between (c :: instant.written.clockChars) = some ((), instant.written.clockChars)) :
    ofText? (String.ofList (instant.written.dayChars ++ c :: instant.written.clockChars)) = some instant := by
  have tight := instant.written.tight_dayChars.append instant.written.tight_clockChars [c]
  have read : looseDateTime between (instant.written.dayChars ++ c :: instant.written.clockChars) =
      some (instant.written, []) := by
    rw [looseDateTime_of_clock (written_fits years) taken, ← written_whole whole]
  exact ofText?_of_form order tight failed read (instant?_whole years whole)

/-- A day and a time with a blank between them are no timestamp, because the offset is missing. -/
theorem ofText?_spaced : ofText? (instant.dayText ++ " " ++ instant.clockText) = some instant := by
  have order : forms = [timestamp, mailDate] ++ looseDateTime Reader.blanks :: forms.drop 3 := rfl
  have fits := written_fits years
  have spelled : instant.dayText ++ " " ++ instant.clockText =
      String.ofList (instant.written.dayChars ++ ' ' :: instant.written.clockChars) := by
    simp [dayText, clockText, String.ext_iff]
  rw [spelled]
  refine ofText?_of_clock years whole order ?_ (Reader.blanks_space_padded_append _ 2 _)
  simp only [List.forall_mem_cons, List.not_mem_nil, false_imp_iff, implies_true, and_true]
  exact ⟨timestamp_eq_none_of_clock fits rfl, mailDate_eq_none fits _⟩

/-- With a letter between them they are no timestamp either, and blanks do not take the letter. -/
theorem ofText?_joined : ofText? (instant.dayText ++ "T" ++ instant.clockText) = some instant := by
  have order : forms = [timestamp, mailDate, looseDateTime Reader.blanks] ++
    looseDateTime (Reader.mark 'T') :: forms.drop 4 := rfl
  have fits := written_fits years
  have spelled : instant.dayText ++ "T" ++ instant.clockText =
      String.ofList (instant.written.dayChars ++ 'T' :: instant.written.clockChars) := by
    simp [dayText, clockText, String.ext_iff]
  rw [spelled]
  refine ofText?_of_clock years whole order ?_ (Reader.mark_cons _ 'T')
  simp only [List.forall_mem_cons, List.not_mem_nil, false_imp_iff, implies_true, and_true]
  exact ⟨timestamp_eq_none_of_clock fits rfl, mailDate_eq_none fits _,
    looseDateTime_append_eq_none fits rfl⟩

/-- The mark of universal time makes them a timestamp. -/
theorem ofText?_marked : ofText? (instant.dayText ++ "T" ++ instant.clockText ++ "Z") = some instant := by
  have order : forms = [] ++ timestamp :: forms.tail := rfl
  have tight := instant.written.tight_dayChars.append (Text.tight_singleton (rfl : Text.isBlank 'Z' = false))
    ('T' :: instant.written.clockChars)
  have read : timestamp (instant.written.dayChars ++ 'T' :: (instant.written.clockChars ++ ['Z'])) =
      some (instant.written, []) := by
    rw [timestamp_of_mark (written_fits years) rfl, ← written_whole whole]
  have spelled : instant.dayText ++ "T" ++ instant.clockText ++ "Z" =
      String.ofList (instant.written.dayChars ++ 'T' :: (instant.written.clockChars ++ ['Z'])) := by
    simp [dayText, clockText, String.ext_iff]
  rw [spelled]
  exact ofText?_of_form order tight (by simp) read (instant?_whole years whole)

/-- A day alone is read when no form with a time has been found, and it stands for its first second. -/
theorem ofText?_day (midnight : instant.seconds % 86400 = 0) : ofText? instant.dayText = some instant := by
  have order : forms = [timestamp, mailDate, looseDateTime Reader.blanks,
    looseDateTime (Reader.mark 'T')] ++ looseDay :: [] := rfl
  have fits := written_fits years
  have tight : Text.Tight (instant.written.dayChars ++ []) := by
    rw [List.append_nil]
    exact instant.written.tight_dayChars
  have first : instant.written = ⟨instant.written.date, 0, 0, 0, 0, 0⟩ := by
    have second : instant.second = 0 := by
      unfold Instant.second
      omega
    simp [written, whole, midnight, second]
  have read : looseDay (instant.written.dayChars ++ []) = some (instant.written, []) := by
    rw [looseDay_append fits, ← first]
  rw [dayText, ← List.append_nil instant.written.dayChars]
  refine ofText?_of_form order tight ?_ read (instant?_whole years whole)
  simp only [List.forall_mem_cons, List.not_mem_nil, false_imp_iff, implies_true, and_true]
  exact ⟨timestamp_eq_none_of_mark fits rfl, mailDate_eq_none fits [],
    looseDateTime_append_eq_none fits rfl, looseDateTime_append_eq_none fits rfl⟩

end WholeSeconds

/-- An instant in a year of four digits is read back from its text without the digits below the millisecond.
If it is a whole millisecond and no leap second, its count of milliseconds gives it back as well, on a whole
second also its day and its time in three spellings, and at midnight its day alone. Blanks around do not
matter.

A leap second has no count of its own, because the count goes on, and the text with milliseconds is the only
one that is said to give it back. -/
theorem forms_agree {before after : String} (blankBefore : ∀ c ∈ before.toList, Text.isBlank c = true)
    (blankAfter : ∀ c ∈ after.toList, Text.isBlank c = true) :
    ofText? (before ++ instant.text ++ after) = some instant.truncated ∧
      (instant.nanos < 1000000000 → instant.nanos % 1000000 = 0 →
        ofText? (before ++ toString instant.millis ++ after) = some instant ∧
        (instant.nanos = 0 →
          ofText? (before ++ (instant.dayText ++ " " ++ instant.clockText) ++ after) = some instant ∧
          ofText? (before ++ (instant.dayText ++ "T" ++ instant.clockText) ++ after) = some instant ∧
          ofText? (before ++ (instant.dayText ++ "T" ++ instant.clockText ++ "Z") ++ after) = some instant ∧
          (instant.seconds % 86400 = 0 →
            ofText? (before ++ instant.dayText ++ after) = some instant))) := by
  simp only [ofText?_surrounded blankBefore blankAfter]
  refine ⟨ofText?_text years, fun common inMillis => ⟨ofText?_millis common inMillis, fun whole => ?_⟩⟩
  exact ⟨ofText?_spaced years whole, ofText?_joined years whole, ofText?_marked years whole,
    ofText?_day years whole⟩

end Forms

/-- The first second of the year zero in all its forms, and the leap second at the end of 2016 in its only
one, between a no-break space and a line feed. -/
theorem year_zero_and_a_leap_second :
    let start : Instant := ⟨-62167219200, 0, by decide, by decide, by decide⟩
    let leap : Instant := ⟨1483228799, 1999999999, by decide, by decide, by decide⟩
    let kept : Instant := ⟨1483228799, 1999000000, by decide, by decide, by decide⟩
    ofText? "\u00a00000-01-01T00:00:00.000Z\n" = some start ∧
      ofText? "\u00a0-62167219200000\n" = some start ∧
      ofText? "\u00a00000-01-01 00:00:00\n" = some start ∧
      ofText? "\u00a00000-01-01T00:00:00\n" = some start ∧
      ofText? "\u00a00000-01-01T00:00:00Z\n" = some start ∧
      ofText? "\u00a00000-01-01\n" = some start ∧
      leap.text = "2016-12-31T23:59:60.999Z" ∧
      ofText? "\u00a02016-12-31T23:59:60.999Z\n" = some kept := by
  intro start leap kept
  have startYears : 0 ≤ start.date.year ∧ start.date.year ≤ 9999 := by decide
  have leapYears : 0 ≤ leap.date.year ∧ leap.date.year ≤ 9999 := by decide
  have space : ∀ c ∈ "\u00a0".toList, Text.isBlank c = true := by simp [Text.isBlank]
  have feed : ∀ c ∈ "\n".toList, Text.isBlank c = true := by simp [Text.isBlank]
  have startWhole : start.nanos % 1000000 = 0 := rfl
  have startText : start.text = "0000-01-01T00:00:00.000Z" := by decide
  have startMillis : toString start.millis = "-62167219200000" := by decide
  have startDay : start.dayText = "0000-01-01" := by decide
  have startClock : start.clockText = "00:00:00" := by decide
  have leapText : leap.text = "2016-12-31T23:59:60.999Z" := by decide
  have leapKept : leap.truncated = kept := by decide
  obtain ⟨text, others⟩ := forms_agree startYears space feed
  obtain ⟨millis, seconds⟩ := others (by decide) startWhole
  obtain ⟨spaced, joined, marked, day⟩ := seconds rfl
  have leapSecond := (forms_agree leapYears space feed).1
  simp only [startText, startMillis, startDay, startClock, leapText, leapKept,
    truncated_eq_self startWhole, String.reduceAppend] at text millis spaced joined marked day leapSecond
  exact ⟨text, millis, spaced, joined, marked, day rfl, leapText, leapSecond⟩

end ParamFilter.Instant
