import ParamFilter.Instant

/-!
# Reading instants

The forms in which a date may be given. An integer, with a minus sign or without a sign, is a number of
milliseconds and nothing else. Any other text is tried as an internet timestamp, as the date of a mail
header, as a date and a time around a space or a letter T, and as a date alone; the first form that
takes the whole text wins. Forms without an offset are in universal time. The forms differ in what they
let pass: timestamps are strict, mail dates allow old zone names and comments, and the last three allow
blanks in front of every number and numbers with fewer digits.
-/

namespace ParamFilter.Instant

/-- A step of reading: takes something from the front of a text, or fails. -/
abbrev Reader (α : Type) := StateT (List Char) Option α

namespace Reader

/-- Fails. -/
def fail {α : Type} : Reader α := fun _ => none

/-- Takes digits, at most so many, and fails when there are too few. -/
def digits (least most : Nat) : Reader Nat := fun text =>
  let run := (text.take most).takeWhile Char.isDigit
  if run.length < least then none else some (Text.digitsValue run, text.drop run.length)

/-- Takes all digits that are there, and fails when there are too few. -/
def digitRun (least : Nat) : Reader (List Char) := fun text =>
  let run := text.takeWhile Char.isDigit
  if run.length < least then none else some (run, text.dropWhile Char.isDigit)

/-- Takes exactly this character. -/
def mark (expected : Char) : Reader Unit := fun text =>
  match text with
  | c :: rest => if c = expected then some ((), rest) else none
  | [] => none

/-- Takes this character if it is there, and says whether it was. -/
def optionalMark (expected : Char) : Reader Bool := fun text =>
  match text with
  | c :: rest => if c = expected then some (true, rest) else some (false, c :: rest)
  | [] => some (false, [])

/-- Takes blanks, if there are any. -/
def blanks : Reader Unit := fun text => some ((), Text.trimStart text)

/-- Takes blanks, of which there has to be one. -/
def someBlanks : Reader Unit := fun text =>
  match text with
  | c :: rest => if Text.isBlank c then some ((), Text.trimStart rest) else none
  | [] => none

/-- Takes three letters that name an entry of a list, in any case, and gives its position. -/
def nameOf (names : List String) : Reader Nat := fun text =>
  let name := (text.take 3).map Char.toLower
  (names.findIdx? (·.toList = name)).map fun position => (position, text.drop 3)

/-- Reads a whole text. -/
def run {α : Type} (reader : Reader α) (text : List Char) : Option α :=
  match reader text with
  | some (value, []) => some value
  | _ => none

end Reader

/-- A date and a time of day at an offset from universal time, as they are written. -/
structure Written where
  date : Date
  hour : Nat
  minute : Nat
  second : Nat
  nanos : Nat
  /-- How far local time is ahead, in seconds. -/
  offset : Int

/-- The instant that is written, if the calendar has the day, the clock the time and no offset is a whole
    day. The sixtieth second is a leap second, whatever the minute. -/
def Written.instant? (written : Written) : Option Instant :=
  if written.date.isValid ∧ minYear ≤ written.date.year ∧ written.date.year ≤ maxYear ∧
      written.hour < 24 ∧ written.minute < 60 ∧ written.second ≤ 60 ∧ written.offset.natAbs < 86400
  then
    let inDay := 3600 * written.hour + 60 * written.minute + min written.second 59
    let leap := if written.second = 60 then 1000000000 else 0
    ofParts? (written.date.dayNumber * 86400 + inDay - written.offset) (leap + written.nanos)
  else none

open Reader

/-- A fraction of a second: nine digits count, and the rest are dropped. -/
def fraction : Reader Nat := do
  let run ← digitRun 1
  let counted := run.take 9
  return Text.digitsValue counted * Nat.pow 10 (9 - counted.length)

/-- An offset as hours and minutes of two digits each, with `separator` read between them, in seconds. -/
def offsetDigits (negative : Bool) (separator : Reader Unit) : Reader Int := do
  let hours ← digits 2 2
  separator
  let minutes ← digits 2 2
  if 60 ≤ minutes then fail
  else
    let seconds : Int := 3600 * hours + 60 * minutes
    return if negative then -seconds else seconds

/-- The offset of an internet timestamp: the mark of universal time in either case, or a sign, hours, a
    colon and minutes. The minus sign may be the typographic one. -/
def timestampOffset : Reader Int := fun text =>
  match text with
  | 'Z' :: rest | 'z' :: rest => some (0, rest)
  | '+' :: rest => offsetDigits false (mark ':') rest
  | '-' :: rest | '\u2212' :: rest => offsetDigits true (mark ':') rest
  | _ => none

/-- What stands between the day and the time of an internet timestamp. -/
def dayMark : Reader Unit := fun text =>
  match text with
  | 'T' :: rest | 't' :: rest | ' ' :: rest => some ((), rest)
  | _ => none

/-- An internet timestamp: every part with its full number of digits, and nothing left out but the
    fraction. -/
def timestamp : Reader Written := do
  let year ← digits 4 4
  mark '-'
  let month ← digits 2 2
  mark '-'
  let day ← digits 2 2
  dayMark
  let hour ← digits 2 2
  mark ':'
  let minute ← digits 2 2
  mark ':'
  let second ← digits 2 2
  let nanos ← if ← optionalMark '.' then fraction else pure 0
  let offset ← timestampOffset
  return ⟨⟨year, month, day⟩, hour, minute, second, nanos, offset⟩

/-- The names of the days, from Monday. -/
def weekdayNames : List String := ["mon", "tue", "wed", "thu", "fri", "sat", "sun"]

/-- The names of the months. -/
def monthNames : List String :=
  ["jan", "feb", "mar", "apr", "may", "jun", "jul", "aug", "sep", "oct", "nov", "dec"]

/-- The zones that mail headers name, with their hours. -/
def zoneHours : List (String × Int) :=
  [("gmt", 0), ("ut", 0), ("z", 0), ("edt", -4), ("est", -5), ("cdt", -5), ("cst", -6), ("mdt", -6),
    ("mst", -7), ("pdt", -7), ("pst", -8)]

/-- The offset of a mail date: a zone by name, a military letter, which says nothing, or a sign and four
    digits. -/
def mailOffset : Reader Int := fun text =>
  match text.takeWhile Char.isAlpha with
  | [] =>
    match text with
    | '+' :: rest => offsetDigits false (pure ()) rest
    | '-' :: rest => offsetDigits true (pure ()) rest
    | _ => none
  | letters =>
    let name := letters.map Char.toLower
    let rest := text.dropWhile Char.isAlpha
    match zoneHours.find? (·.1.toList = name), name with
    | some (_, hours), _ => some (3600 * hours, rest)
    | none, [letter] => if letter = 'j' then none else some (0, rest)
    | none, _ => none

/-- The text behind a comment whose first bracket has been read. Comments nest to any depth, and a
    backslash takes the next character out of the count. -/
def behindComment? (depth : Nat) : List Char → Option (List Char)
  | [] => none
  | '\\' :: _ :: rest => behindComment? depth rest
  | '(' :: rest => behindComment? (depth + 1) rest
  | ')' :: rest =>
    match depth with
    | 0 => some rest
    | depth + 1 => behindComment? depth rest
  | _ :: rest => behindComment? depth rest

/-- Drops the comments in front, with the blanks before each of them; `limit` bounds their number. -/
def dropComments : Nat → List Char → List Char
  | 0, text => text
  | limit + 1, text =>
    match Text.trimStart text with
    | '(' :: inside =>
      match behindComment? 0 inside with
      | some rest => dropComments limit rest
      | none => text
    | _ => text

/-- Takes comments. There are no more of them than characters. -/
def comments : Reader Unit := fun text => some ((), dropComments text.length text)

/-- The day of the week in front of a mail date, with its comma, if it is there. -/
def optionalWeekday : Reader (Option Nat) := fun text =>
  match nameOf weekdayNames text with
  | none => some (none, text)
  | some (weekday, rest) => (mark ',' rest).map fun (_, rest) => (some weekday, rest)

/-- The year of a mail date. Two digits mean a year from 1950 to 2049, and three count from 1900. -/
def mailYear : Reader Nat := do
  let run ← digitRun 2
  let year := Text.digitsValue run
  return match run.length with
    | 2 => if year < 50 then 2000 + year else 1900 + year
    | 3 => 1900 + year
    | _ => year

/-- The seconds of a mail date, if a colon says that they are there. -/
def optionalSecond : Reader Nat := fun text =>
  match mark ':' (Text.trimStart text) with
  | none => some (0, text)
  | some (_, rest) => digits 2 2 rest

/-- The date of a mail header. A day of the week has to be the right one. -/
def mailDate : Reader Written := do
  blanks
  let weekday ← optionalWeekday
  blanks
  let day ← digits 1 2
  someBlanks
  let month ← nameOf monthNames
  someBlanks
  let year ← mailYear
  someBlanks
  let hour ← digits 2 2
  blanks
  mark ':'
  blanks
  let minute ← digits 2 2
  let second ← optionalSecond
  someBlanks
  let offset ← mailOffset
  comments
  let date : Date := ⟨year, month + 1, day⟩
  if weekday.all (· = date.weekday) then return ⟨date, hour, minute, second, 0, offset⟩ else fail

/-- A year with a sign and any number of digits, or with up to four digits. -/
def looseYear : Reader Int := fun text =>
  match Text.trimStart text with
  | '-' :: rest => (digitRun 1 rest).map fun (run, rest) => (-(Text.digitsValue run : Int), rest)
  | '+' :: rest => (digitRun 1 rest).map fun (run, rest) => ((Text.digitsValue run : Int), rest)
  | rest => (digits 1 4 rest).map fun (year, rest) => ((year : Int), rest)

/-- One or two digits behind any number of blanks. -/
def loosePair : Reader Nat := do
  blanks
  digits 1 2

/-- A year, a month and a day between hyphens. -/
def looseDate : Reader Date := do
  let year ← looseYear
  mark '-'
  let month ← loosePair
  mark '-'
  let day ← loosePair
  return ⟨year, month, day⟩

/-- A date, whatever `between` reads, and a time. -/
def looseDateTime (between : Reader Unit) : Reader Written := do
  let date ← looseDate
  between
  let hour ← loosePair
  mark ':'
  let minute ← loosePair
  mark ':'
  let second ← loosePair
  return ⟨date, hour, minute, second, 0, 0⟩

/-- The start of a date. -/
def looseDay : Reader Written := do
  let date ← looseDate
  return ⟨date, 0, 0, 0, 0, 0⟩

/-- The forms other than an integer, in the order in which they are tried. -/
def forms : List (Reader Written) :=
  [timestamp, mailDate, looseDateTime blanks, looseDateTime (mark 'T'), looseDay]

/-- Whether a text is an integer without a plus sign. -/
def isTimestampNumber (text : List Char) : Bool :=
  match text with
  | '-' :: digits => Text.isDigits digits
  | digits => Text.isDigits digits

/-- Reads a date in any of its forms. Blanks around it do not matter. -/
def ofText? (value : String) : Option Instant :=
  let text := Text.trim value.toList
  if isTimestampNumber text then (Text.int? text).bind ofMillis?
  else forms.findSome? fun form => (form.run text).bind Written.instant?

end ParamFilter.Instant
