import Mathlib
import ParamFilter.Instant.Reader
import ParamFilter.Proofs.Digits

/-!
# Reading dates step by step

A reader takes something from the front of a text and leaves the rest to the next reader. Each law here
says what one step takes from a text that begins with a number of fixed width, whatever is behind it, and
the laws of the five forms follow by putting the steps together: a day and a clock with two digits for each
part are read by the forms that they belong to, and the other forms fail at a certain place. Blanks around a
text come first, because they are gone before a form sees it.

Other spellings that the forms let pass, with fewer digits, blanks or zones, are not spoken of here.
-/

namespace ParamFilter

namespace Text

/-- Blanks around a text are cut off together with the blanks that it has at its own ends.

Where there is something else in the text, the cut from the front stops in it, and the cut from the end as
well. Where there is nothing else, all of it goes. -/
theorem trim_surrounded {before after : List Char} (blankBefore : ∀ c ∈ before, isBlank c = true)
    (blankAfter : ∀ c ∈ after, isBlank c = true) (text : List Char) :
    trim (before ++ (text ++ after)) = trim text := by
  have blankReverse : ∀ c ∈ after.reverse, isBlank c = true := fun c member =>
    blankAfter c (List.mem_reverse.mp member)
  have front : trimStart (before ++ (text ++ after)) = trimStart (text ++ after) :=
    List.dropWhile_append_of_pos blankBefore
  have back : ∀ kept, trimEnd (kept ++ after) = trimEnd kept := fun kept => by
    rw [trimEnd, List.reverse_append, List.dropWhile_append_of_pos blankReverse, trimEnd]
  rw [trim, front, trimStart, List.dropWhile_append]
  split
  · next empty =>
    have gone : after.dropWhile isBlank = [] := List.dropWhile_eq_nil_iff.mpr blankAfter
    rw [trim, trimStart, List.isEmpty_iff.mp empty, gone]
  · exact back _

/-- A text that begins and ends with a character that is not blank. -/
structure Tight (text : List Char) : Prop where
  first : ∃ c rest, text = c :: rest ∧ isBlank c = false
  last : ∃ rest c, text = rest ++ [c] ∧ isBlank c = false

/-- A text without blanks is tight, if there is anything in it. -/
theorem Tight.of_forall {text : List Char} (filled : text ≠ []) (plain : ∀ c ∈ text, isBlank c = false) :
    Tight text where
  first := by
    obtain ⟨c, rest, rfl⟩ := List.exists_cons_of_ne_nil filled
    exact ⟨c, rest, rfl, plain c List.mem_cons_self⟩
  last := by
    have split := List.dropLast_append_getLast filled
    exact ⟨_, _, split.symm, plain _ (List.getLast_mem filled)⟩

theorem tight_singleton {c : Char} (plain : isBlank c = false) : Tight [c] :=
  .of_forall (List.cons_ne_nil c []) (List.forall_mem_singleton.mpr plain)

/-- Only the two ends count. -/
theorem Tight.append {front back : List Char} (tightFront : Tight front) (tightBack : Tight back)
    (middle : List Char) : Tight (front ++ (middle ++ back)) where
  first := by
    obtain ⟨c, rest, rfl, plain⟩ := tightFront.first
    exact ⟨c, _, rfl, plain⟩
  last := by
    obtain ⟨rest, c, rfl, plain⟩ := tightBack.last
    exact ⟨front ++ (middle ++ rest), c, by simp, plain⟩

theorem tight_padded (width n : Nat) : Tight (padded width n) := by
  obtain ⟨filled, all⟩ := isDigits_iff.mp (isDigits_padded width n)
  exact Tight.of_forall filled fun c member => (plain_of_isDigit (all c member)).1

theorem tight_toString (n : Int) : Tight (toString n).toList := by
  have digits := isDigits_iff.mp (isDigits_toDigits n.natAbs)
  have plain : ∀ c ∈ Nat.toDigits 10 n.natAbs, isBlank c = false := fun c member =>
    (plain_of_isDigit (digits.2 c member)).1
  rw [toList_toString]
  split
  · exact Tight.of_forall (by simp) (List.forall_mem_cons.mpr ⟨rfl, plain⟩)
  · exact Tight.of_forall digits.1 plain

/-- From a tight text nothing is cut off. -/
theorem Tight.trim_eq {text : List Char} (tight : Tight text) : trim text = text := by
  have front : trimStart text = text := by
    obtain ⟨c, rest, rfl, plain⟩ := tight.first
    exact List.dropWhile_cons_of_neg (by simp [plain])
  obtain ⟨rest, c, rfl, plain⟩ := tight.last
  rw [trim, front, trimEnd, List.reverse_append, List.reverse_singleton, List.singleton_append,
    List.dropWhile_cons_of_neg (by simp [plain])]
  simp

end Text

namespace Instant

namespace Reader

section Steps

variable {α β : Type} {reader : Reader α} {next : α → Reader β} {value : α} {text rest : List Char}

/-- What a step takes is gone for the next one. -/
theorem bind_of_eq_some (read : reader text = some (value, rest)) :
    (reader >>= next) text = next value rest := by
  change (reader text).bind (fun result => next result.1 result.2) = _
  rw [read, Option.bind_some]

/-- After a step that fails there is no other. -/
theorem bind_of_eq_none (failed : reader text = none) : (reader >>= next) text = none := by
  change (reader text).bind (fun result => next result.1 result.2) = _
  rw [failed, Option.bind_none]

end Steps

variable (rest : List Char)

theorem mark_cons (expected : Char) : mark expected (expected :: rest) = some ((), rest) := if_pos rfl

/-- A number of full width is read, whatever is behind it. -/
theorem digits_padded_append {least width n : Nat} (wide : 0 < width) (enough : least ≤ width)
    (fits : n < 10 ^ width) : digits least width (Text.padded width n ++ rest) = some (n, rest) := by
  have length := Text.length_padded wide fits
  have all := (Text.isDigits_iff.mp (Text.isDigits_padded width n)).2
  have run : ((Text.padded width n ++ rest).take width).takeWhile Char.isDigit = Text.padded width n := by
    rw [List.take_left' length, List.takeWhile_eq_self_iff.mpr all]
  simp only [digits, run, length, Nat.not_lt.mpr enough, if_false, List.drop_left' length,
    Text.digitsValue_padded]

/-- Two digits are enough, even if there are more. -/
theorem digits_cons_cons {a b : Char} (former : a.isDigit = true) (latter : b.isDigit = true) :
    digits 1 2 (a :: b :: rest) = some (Text.digitsValue [a, b], rest) := by
  simp [digits, former, latter]

/-- A digit is no blank. -/
theorem someBlanks_eq_none {c : Char} (digit : c.isDigit = true) : someBlanks (c :: rest) = none := by
  simp [someBlanks, (Text.plain_of_isDigit digit).1]

theorem blanks_padded_append (width n : Nat) :
    blanks (Text.padded width n ++ rest) = some ((), Text.padded width n ++ rest) :=
  congrArg (fun text => some ((), text)) (Text.trimStart_padded_append width n rest)

theorem blanks_space_padded_append (width n : Nat) :
    blanks (' ' :: (Text.padded width n ++ rest)) = some ((), Text.padded width n ++ rest) :=
  blanks_padded_append rest width n

/-- Two digits are read with or without blanks before them. -/
theorem loosePair_padded_append {n : Nat} (fits : n < 100) :
    loosePair (Text.padded 2 n ++ rest) = some (n, rest) := by
  rw [loosePair, bind_of_eq_some (blanks_padded_append rest 2 n)]
  exact digits_padded_append rest (by decide) (by decide) fits

/-- Four digits are a year, in the forms that allow for others too. -/
theorem looseYear_padded_append {n : Nat} (fits : n < 10 ^ 4) :
    looseYear (Text.padded 4 n ++ rest) = some ((n : Int), rest) := by
  obtain ⟨c, more, same, digit⟩ := Text.exists_padded_eq_cons 4 n
  obtain ⟨_, noMinus, noPlus, _⟩ := Text.plain_of_isDigit digit
  have read : digits 1 4 (c :: (more ++ rest)) = some (n, rest) := by
    rw [← List.cons_append, ← same]
    exact digits_padded_append rest (by decide) (by decide) fits
  rw [looseYear, Text.trimStart_padded_append, same, List.cons_append]
  split
  · next eq => exact absurd (List.cons.inj eq).1 noMinus
  · next eq => exact absurd (List.cons.inj eq).1 noPlus
  · rw [read]
    rfl

/-- Three digits of a fraction are milliseconds, if no digit is behind them. -/
theorem fraction_padded_append {n : Nat} (fits : n < 1000) {rest : List Char}
    (apart : ∀ c, rest.head? = some c → c.isDigit = false) :
    fraction (Text.padded 3 n ++ rest) = some (n * 1000000, rest) := by
  have length : (Text.padded 3 n).length = 3 := Text.length_padded (by decide) fits
  have all := (Text.isDigits_iff.mp (Text.isDigits_padded 3 n)).2
  have run : (Text.padded 3 n ++ rest).takeWhile Char.isDigit = Text.padded 3 n ∧
      (Text.padded 3 n ++ rest).dropWhile Char.isDigit = rest := by
    rw [List.takeWhile_append_of_pos all, List.dropWhile_append_of_pos all]
    cases rest with
    | nil => simp
    | cons c others => simp [apart c rfl]
  have read : digitRun 1 (Text.padded 3 n ++ rest) = some (Text.padded 3 n, rest) := by
    simp [digitRun, run, length]
  have counted : (Text.padded 3 n).take 9 = Text.padded 3 n := List.take_of_length_le (by omega)
  rw [fraction, bind_of_eq_some read]
  simp only [counted, length, Text.digitsValue_padded]
  rfl

/-- No name of a day begins with a digit, and a digit is not a letter of another case. -/
theorem nameOf_weekdayNames_eq_none {c : Char} (digit : c.isDigit = true) (rest : List Char) :
    nameOf weekdayNames (c :: rest) = none := by
  have same : c.toLower = c := by
    simp only [Char.isDigit, Bool.and_eq_true, decide_eq_true_eq] at digit
    exact dif_neg fun upper => absurd (UInt32.le_trans upper.1 digit.2) (by decide)
  have letters : ∀ name ∈ weekdayNames, name.toList.head?.all (!·.isDigit) = true := by decide
  have unnamed : weekdayNames.findIdx? (·.toList = c :: (rest.take 2).map Char.toLower) = none := by
    rw [List.findIdx?_eq_none_iff]
    intro name member
    have letter := letters name member
    rw [decide_eq_false_iff_not]
    intro named
    simp [named, digit] at letter
  rw [nameOf]
  simp only [List.take_succ_cons, List.map_cons, same, unnamed, Option.map_none]

/-- No name of a day begins with a digit, so none is taken from a number. -/
theorem optionalWeekday_padded_append (width n : Nat) :
    optionalWeekday (Text.padded width n ++ rest) = some (none, Text.padded width n ++ rest) := by
  obtain ⟨c, more, same, digit⟩ := Text.exists_padded_eq_cons width n
  rw [same, List.cons_append, optionalWeekday, nameOf_weekdayNames_eq_none digit]

section Whole

variable {α : Type} {reader : Reader α} {text : List Char}

theorem run_of_eq_some {value : α} (read : reader text = some (value, [])) :
    reader.run text = some value := by
  rw [run, read]

theorem run_of_eq_none (failed : reader text = none) : reader.run text = none := by
  rw [run, failed]

end Whole

end Reader

/-- The day as it is written: four digits of the year, two of the month and two of the day. -/
def Written.dayChars (written : Written) : List Char :=
  Text.padded 4 written.date.year.natAbs ++ '-' :: (Text.padded 2 written.date.month ++
    '-' :: Text.padded 2 written.date.day)

/-- The time of day as it is written, two digits for each part. -/
def Written.clockChars (written : Written) : List Char :=
  Text.padded 2 written.hour ++ ':' :: (Text.padded 2 written.minute ++
    ':' :: Text.padded 2 written.second)

theorem Written.tight_dayChars (written : Written) : Text.Tight written.dayChars := by
  have ends := (Text.tight_padded 4 written.date.year.natAbs).append (Text.tight_padded 2 written.date.day)
    ('-' :: (Text.padded 2 written.date.month ++ ['-']))
  simpa [dayChars] using ends

theorem Written.tight_clockChars (written : Written) : Text.Tight written.clockChars := by
  have ends := (Text.tight_padded 2 written.hour).append (Text.tight_padded 2 written.second)
    (':' :: (Text.padded 2 written.minute ++ [':']))
  simpa [clockChars] using ends

/-- A day is not a number, because of the hyphens behind its year. -/
theorem isTimestampNumber_dayChars_append (written : Written) (rest : List Char) :
    isTimestampNumber (written.dayChars ++ rest) = false := by
  have hyphen : Text.isDigits (written.dayChars ++ rest) = false := by
    rw [Bool.eq_false_iff]
    intro digits
    have member : '-' ∈ written.dayChars ++ rest := by simp [Written.dayChars]
    exact absurd ((Text.isDigits_iff.mp digits).2 '-' member) (by decide)
  obtain ⟨c, more, same, digit⟩ := Text.exists_padded_eq_cons 4 written.date.year.natAbs
  unfold isTimestampNumber
  split
  · next eq =>
    rw [Written.dayChars, same, List.cons_append, List.cons_append] at eq
    exact absurd (List.cons.inj eq).1 (Text.plain_of_isDigit digit).2.1
  · exact hyphen

/-- What fits the digits that there are. -/
structure Written.Fits (written : Written) : Prop where
  year : 0 ≤ written.date.year ∧ written.date.year ≤ 9999
  month : written.date.month < 100
  day : written.date.day < 100
  hour : written.hour < 100
  minute : written.minute < 100
  second : written.second < 100

/-- Four digits without a sign give back the year. -/
theorem Written.Fits.natAbs_year {written : Written} (fits : written.Fits) :
    written.date.year.natAbs < 10 ^ 4 ∧ (written.date.year.natAbs : Int) = written.date.year := by
  have bounds := fits.year
  omega

section Forms

open Reader

variable {written : Written} (fits : written.Fits)

include fits

/-- The forms that let blanks pass read a written day. -/
theorem looseDate_append (rest : List Char) :
    looseDate (written.dayChars ++ rest) = some (written.date, rest) := by
  obtain ⟨year, whole⟩ := fits.natAbs_year
  simp only [Written.dayChars, List.append_assoc, List.cons_append]
  rw [looseDate, bind_of_eq_some (looseYear_padded_append _ year), bind_of_eq_some (mark_cons _ '-'),
    bind_of_eq_some (loosePair_padded_append _ fits.month), bind_of_eq_some (mark_cons _ '-'),
    bind_of_eq_some (loosePair_padded_append _ fits.day), whole]
  rfl

/-- A day alone is the start of the day. -/
theorem looseDay_append (rest : List Char) :
    looseDay (written.dayChars ++ rest) = some (⟨written.date, 0, 0, 0, 0, 0⟩, rest) := by
  rw [looseDay, bind_of_eq_some (looseDate_append fits rest)]
  rfl

/-- A day and a clock are read together, if what is between them is. -/
theorem looseDateTime_of_clock {between : Reader Unit} {text : List Char}
    (read : between text = some ((), written.clockChars)) :
    looseDateTime between (written.dayChars ++ text) =
      some (⟨written.date, written.hour, written.minute, written.second, 0, 0⟩, []) := by
  rw [looseDateTime, bind_of_eq_some (looseDate_append fits text), bind_of_eq_some read,
    Written.clockChars, ← List.append_nil (Text.padded 2 written.second),
    bind_of_eq_some (loosePair_padded_append _ fits.hour), bind_of_eq_some (mark_cons _ ':'),
    bind_of_eq_some (loosePair_padded_append _ fits.minute), bind_of_eq_some (mark_cons _ ':'),
    bind_of_eq_some (loosePair_padded_append _ fits.second)]
  rfl

/-- Without an hour behind the day there is no time. -/
theorem looseDateTime_append_eq_none {between : Reader Unit} {text : List Char}
    (failed : (between >>= fun _ => loosePair) text = none) :
    looseDateTime between (written.dayChars ++ text) = none := by
  rw [looseDateTime, bind_of_eq_some (looseDate_append fits text)]
  cases took : between text with
  | none => exact bind_of_eq_none took
  | some result =>
    have missing : loosePair result.2 = none := (bind_of_eq_some took).symm.trans failed
    exact (bind_of_eq_some took).trans (bind_of_eq_none missing)

/-- A timestamp goes on behind the day with a mark and a clock. -/
theorem timestamp_append (text : List Char) : timestamp (written.dayChars ++ text) = (do
    dayMark
    let hour ← digits 2 2
    mark ':'
    let minute ← digits 2 2
    mark ':'
    let second ← digits 2 2
    let nanos ← if ← optionalMark '.' then fraction else pure 0
    let offset ← timestampOffset
    return ⟨written.date, hour, minute, second, nanos, offset⟩ : Reader Written) text := by
  obtain ⟨year, whole⟩ := fits.natAbs_year
  simp only [Written.dayChars, List.append_assoc, List.cons_append]
  rw [timestamp, bind_of_eq_some (digits_padded_append _ (by decide) (by decide) year),
    bind_of_eq_some (mark_cons _ '-'),
    bind_of_eq_some (digits_padded_append _ (by decide) (by decide) fits.month),
    bind_of_eq_some (mark_cons _ '-'),
    bind_of_eq_some (digits_padded_append _ (by decide) (by decide) fits.day), whole]

/-- Behind the clock there is a fraction, if it is wanted, and an offset. -/
theorem timestamp_of_clock {text rest : List Char}
    (read : dayMark text = some ((), written.clockChars ++ rest)) :
    timestamp (written.dayChars ++ text) = (do
      let nanos ← if ← optionalMark '.' then fraction else pure 0
      let offset ← timestampOffset
      return ⟨written.date, written.hour, written.minute, written.second, nanos, offset⟩ :
        Reader Written) rest := by
  rw [timestamp_append fits, bind_of_eq_some read]
  simp only [Written.clockChars, List.append_assoc, List.cons_append]
  rw [bind_of_eq_some (digits_padded_append _ (by decide) (by decide) fits.hour),
    bind_of_eq_some (mark_cons _ ':'),
    bind_of_eq_some (digits_padded_append _ (by decide) (by decide) fits.minute),
    bind_of_eq_some (mark_cons _ ':'),
    bind_of_eq_some (digits_padded_append _ (by decide) (by decide) fits.second)]

/-- With a fraction and the mark of universal time the timestamp ends. -/
theorem timestamp_of_fraction {text : List Char} {millis : Nat} (small : millis < 1000)
    (read : dayMark text =
      some ((), written.clockChars ++ '.' :: (Text.padded 3 millis ++ ['Z']))) :
    timestamp (written.dayChars ++ text) = some
      (⟨written.date, written.hour, written.minute, written.second, millis * 1000000, 0⟩, []) := by
  rw [timestamp_of_clock fits read]
  have dot : optionalMark '.' ('.' :: (Text.padded 3 millis ++ ['Z'])) =
      some (true, Text.padded 3 millis ++ ['Z']) := rfl
  have nanos : fraction (Text.padded 3 millis ++ ['Z']) = some (millis * 1000000, ['Z']) :=
    fraction_padded_append small (by simp)
  rw [bind_of_eq_some dot]
  exact bind_of_eq_some nanos

/-- The mark of universal time ends a timestamp on a whole second. -/
theorem timestamp_of_mark {text : List Char}
    (read : dayMark text = some ((), written.clockChars ++ ['Z'])) :
    timestamp (written.dayChars ++ text) = some
      (⟨written.date, written.hour, written.minute, written.second, 0, 0⟩, []) := by
  rw [timestamp_of_clock fits read]
  rfl

/-- A timestamp needs an offset. -/
theorem timestamp_eq_none_of_clock {text : List Char}
    (read : dayMark text = some ((), written.clockChars)) :
    timestamp (written.dayChars ++ text) = none := by
  rw [← List.append_nil written.clockChars] at read
  rw [timestamp_of_clock fits read]
  rfl

/-- A timestamp needs a time. -/
theorem timestamp_eq_none_of_mark {text : List Char} (failed : dayMark text = none) :
    timestamp (written.dayChars ++ text) = none := by
  rw [timestamp_append fits]
  exact bind_of_eq_none failed

/-- A mail date does not begin with a year. The first two digits would be the day, and no blank is behind
them. -/
theorem mailDate_eq_none (rest : List Char) : mailDate (written.dayChars ++ rest) = none := by
  simp only [Written.dayChars, List.append_assoc, List.cons_append]
  rw [mailDate, bind_of_eq_some (blanks_padded_append _ 4 _),
    bind_of_eq_some (optionalWeekday_padded_append _ 4 _),
    bind_of_eq_some (blanks_padded_append _ 4 _)]
  -- From here on the digits count one by one: two for the day, and a third where the blank should be.
  have length := Text.length_padded (by decide) fits.natAbs_year.1
  have all := (Text.isDigits_iff.mp (Text.isDigits_padded 4 written.date.year.natAbs)).2
  obtain ⟨first, second, third, fourth, same⟩ := List.length_eq_four.mp length
  rw [same] at all ⊢
  simp only [List.forall_mem_cons] at all
  obtain ⟨firstDigit, secondDigit, thirdDigit, _⟩ := all
  rw [List.cons_append, List.cons_append, List.cons_append,
    bind_of_eq_some (digits_cons_cons _ firstDigit secondDigit)]
  exact bind_of_eq_none (someBlanks_eq_none _ thirdDigit)

end Forms

end Instant

end ParamFilter
