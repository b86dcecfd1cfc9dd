import Mathlib
import ParamFilter.Proofs.DateReaders
import ParamFilter.Proofs.LeadingNumbers

/-!
# Numbers with a sign as dates

A text that is nothing but digits, with or without a sign and with blanks around it at most, names an
integer. No form of a date with calendar parts reads such a text, because all of them want something
behind the year or the day that is no digit. So it is a date only as a count of milliseconds, and then it
is exactly that many milliseconds from the start of 1970, if instants reach so far.

The reader of leading integers takes either sign, and the reader of dates does not take a plus sign. A
text with a plus sign is no date at all (`ofText?_of_signed`), although the integer that it
names is read from it elsewhere.
-/

namespace ParamFilter

namespace Text

/-- A text that is digits behind a sign, with blanks around it at most. -/
structure Signed (text sign digits : List Char) : Prop where
  known : sign ∈ signs
  run : isDigits digits = true
  whole : trim text = sign ++ digits

/-- Cutting off the blanks in front leaves those at the end. -/
theorem exists_trimStart_eq (text : List Char) :
    ∃ behind, trimStart text = trim text ++ behind ∧ ∀ c ∈ behind, isBlank c = true := by
  refine ⟨((trimStart text).reverse.takeWhile isBlank).reverse, ?_, ?_⟩
  · rw [trim, trimEnd, ← List.reverse_append, List.takeWhile_append_dropWhile, List.reverse_reverse]
  · intro c member
    exact List.mem_takeWhile_imp (List.mem_reverse.mp member)

variable {text sign digits : List Char}

/-- Such a text begins with the number that it names, and blanks are all that is behind it. -/
theorem Signed.begins (written : Signed text sign digits) :
    ∃ blanks tail, Begins text blanks sign digits tail := by
  obtain ⟨behind, start, blank⟩ := exists_trimStart_eq text
  have front : trimStart text = sign ++ (digits ++ behind) := by
    rw [start, written.whole, List.append_assoc]
  refine ⟨text.takeWhile isBlank, behind, ?_, fun c => List.mem_takeWhile_imp, written.known,
    written.run, fun c first => ?_⟩
  · rw [← front]
    exact List.takeWhile_append_dropWhile.symm
  · rw [Bool.eq_false_iff]
    intro digit
    have plain := (plain_of_isDigit digit).1
    rw [blank c (List.mem_of_mem_head? first)] at plain
    cases plain

/-- Digits behind a sign begin with a number that is all of them. -/
theorem leadingInt?_of_signed (written : Signed text sign digits) :
    leadingInt? text = word64? (signedValue (decide (sign = ['-'])) digits) := by
  obtain ⟨_, _, begins⟩ := written.begins
  exact begins.leadingInt?_eq

/-- Without blanks around it, the whole text is read as this number. -/
theorem int?_of_signed (known : sign ∈ signs) (run : isDigits digits = true) :
    int? (sign ++ digits) = word64? (signedValue (decide (sign = ['-'])) digits) := by
  have split := splitSign_append known run []
  rw [List.append_nil] at split
  simp only [int?, split, run, if_true]

end Text

namespace Instant

/-- An instant that is so many whole milliseconds from the start of 1970. -/
def IsMillis (instant : Instant) (n : Int) : Prop :=
  instant.millis = n ∧ instant.nanos < 1000000000 ∧ instant.nanos % 1000000 = 0

/-- The first millisecond that instants reach. -/
def firstMillis : Int := Date.dayNumber ⟨minYear, 1, 1⟩ * 86400000

/-- The last millisecond that instants reach. -/
def lastMillis : Int := (Date.dayNumber ⟨maxYear, 12, 31⟩ + 1) * 86400000 - 1

/-- A count of milliseconds gives the one instant that is so many milliseconds away. -/
theorem ofMillis?_eq_some_iff {n : Int} {instant : Instant} :
    ofMillis? n = some instant ↔ instant.IsMillis n := by
  unfold ofMillis? ofParts? IsMillis millis
  constructor
  · intro given
    split at given
    · obtain rfl := Option.some.inj given
      refine ⟨?_, ?_, ?_⟩ <;> simp only <;> omega
    · cases given
  · rintro ⟨rfl, common, whole⟩
    have seconds : (instant.seconds * 1000 + instant.nanos / 1000000) / 1000 = instant.seconds := by omega
    have nanos : ((instant.seconds * 1000 + instant.nanos / 1000000 : Int) % 1000).toNat * 1000000 =
        instant.nanos := by omega
    simp only [seconds, nanos]
    exact dif_pos ⟨instant.inRange, instant.nanos_lt, instant.leap_last⟩

/-- There is such an instant exactly between the first and the last millisecond. -/
theorem exists_isMillis_iff {n : Int} :
    (∃ instant : Instant, instant.IsMillis n) ↔ firstMillis ≤ n ∧ n ≤ lastMillis := by
  unfold firstMillis lastMillis
  constructor
  · rintro ⟨instant, rfl, common, whole⟩
    have range := instant.inRange
    unfold millis
    omega
  · rintro ⟨low, high⟩
    refine ⟨⟨n / 1000, (n % 1000).toNat * 1000000, by omega, by omega, by omega⟩, ?_, ?_, ?_⟩
    · simp only [millis]
      omega
    · simp only
      omega
    · simp only
      omega

namespace Reader

/-- Whatever a step takes from a text, nothing but digits is left behind it. -/
def LeavesDigits {α : Type} (reader : Reader α) (text : List Char) : Prop :=
  ∀ value rest, reader text = some (value, rest) → ∀ c ∈ rest, c.isDigit = true

/-- Where only digits are left, a next step that fails on digits fails altogether. -/
theorem LeavesDigits.bind_eq_none {α β : Type} {reader : Reader α} {next : α → Reader β}
    {text : List Char} (leaves : LeavesDigits reader text)
    (failed : ∀ value rest, (∀ c ∈ rest, c.isDigit = true) → next value rest = none) :
    (reader >>= next) text = none := by
  cases read : reader text with
  | none => exact bind_of_eq_none read
  | some result =>
    rw [bind_of_eq_some read]
    exact failed result.1 result.2 (leaves result.1 result.2 read)

/-- A mark that is no digit is not found in front of digits. -/
theorem mark_eq_none {expected : Char} (noDigit : expected.isDigit = false) {text : List Char}
    (all : ∀ c ∈ text, c.isDigit = true) : mark expected text = none := by
  cases text with
  | nil => rfl
  | cons c rest =>
    have different : c ≠ expected := by
      rintro rfl
      rw [all c List.mem_cons_self] at noDigit
      cases noDigit
    exact if_neg different

/-- Neither is a blank. -/
theorem someBlanks_eq_none_of_digits {text : List Char} (all : ∀ c ∈ text, c.isDigit = true) :
    someBlanks text = none := by
  cases text with
  | nil => rfl
  | cons c rest => exact someBlanks_eq_none rest (all c List.mem_cons_self)

section Signed

variable {sign run : List Char} (known : sign ∈ Text.signs) (filled : Text.isDigits run = true)

include known filled

/-- A text of a sign and digits begins with no blank and with no name of a day. -/
theorem exists_signed_eq_cons : ∃ c rest, sign ++ run = c :: rest ∧ Text.isBlank c = false ∧
    nameOf weekdayNames (c :: rest) = none := by
  simp only [Text.signs, List.mem_cons, List.not_mem_nil, or_false] at known
  rcases known with rfl | rfl | rfl
  · obtain ⟨notEmpty, all⟩ := Text.isDigits_iff.mp filled
    obtain ⟨c, rest, rfl⟩ := List.exists_cons_of_ne_nil notEmpty
    have digit := all c List.mem_cons_self
    exact ⟨c, rest, rfl, (Text.plain_of_isDigit digit).1, nameOf_weekdayNames_eq_none digit rest⟩
  · exact ⟨'-', run, rfl, by decide, by simp [nameOf, weekdayNames]⟩
  · exact ⟨'+', run, rfl, by decide, by simp [nameOf, weekdayNames]⟩

/-- A number of at least one digit is not read from in front of a sign, and from digits it leaves digits. -/
theorem leavesDigits_digits {least most : Nat} (positive : 0 < least) :
    LeavesDigits (digits least most) (sign ++ run) := by
  intro n rest read
  simp only [Text.signs, List.mem_cons, List.not_mem_nil, or_false] at known
  simp only [digits, Option.ite_none_left_eq_some, Option.some.injEq, Prod.mk.injEq] at read
  obtain ⟨enough, _, rfl⟩ := read
  rcases known with rfl | rfl | rfl
  · exact fun c member => (Text.isDigits_iff.mp filled).2 c (List.mem_of_mem_drop member)
  · cases most <;> simp [positive] at enough
  · cases most <;> simp [positive] at enough

/-- A year takes a sign and all digits behind it, or some digits. -/
theorem leavesDigits_looseYear : LeavesDigits looseYear (sign ++ run) := by
  intro year rest read
  obtain ⟨notEmpty, all⟩ := Text.isDigits_iff.mp filled
  have behind : run.dropWhile Char.isDigit = [] := List.dropWhile_eq_nil_iff.mpr all
  -- A signed year takes digits without end, so that nothing is left of them.
  have taken : digitRun 1 run = some (run, []) := by
    have one : ¬run.length < 1 := by simpa using notEmpty
    simp only [digitRun, List.takeWhile_eq_self_iff.mpr all, behind, one, if_false]
  simp only [Text.signs, List.mem_cons, List.not_mem_nil, or_false] at known
  rcases known with rfl | rfl | rfl
  · have unsigned : looseYear run = (digits 1 4 run).map fun read => ((read.1 : Int), read.2) := by
      obtain ⟨c, others, rfl⟩ := List.exists_cons_of_ne_nil notEmpty
      obtain ⟨_, noMinus, noPlus, _⟩ := Text.plain_of_isDigit (all c List.mem_cons_self)
      rw [looseYear, Text.trimStart_of_isDigits filled]
      split
      · next eq => exact absurd (List.cons.inj eq).1 noMinus
      · next eq => exact absurd (List.cons.inj eq).1 noPlus
      · rfl
    rw [List.nil_append, unsigned] at read
    obtain ⟨⟨n, left⟩, taken, same⟩ := Option.map_eq_some_iff.mp read
    obtain rfl : left = rest := (Prod.mk.inj same).2
    have noSign : [] ∈ Text.signs := List.mem_cons_self
    exact leavesDigits_digits noSign filled (by decide) n left taken
  · have minus : looseYear ('-' :: run) = (digitRun 1 run).map fun read =>
      (-(Text.digitsValue read.1 : Int), read.2) := rfl
    rw [List.singleton_append, minus, taken] at read
    simp [← (Prod.mk.inj (Option.some.inj read)).2]
  · have plus : looseYear ('+' :: run) = (digitRun 1 run).map fun read =>
      ((Text.digitsValue read.1 : Int), read.2) := rfl
    rw [List.singleton_append, plus, taken] at read
    simp [← (Prod.mk.inj (Option.some.inj read)).2]

end Signed

end Reader

open Reader

section Forms

variable {sign run : List Char} (known : sign ∈ Text.signs) (filled : Text.isDigits run = true)

include known filled

/-- A timestamp begins with four digits, and a hyphen behind them. -/
theorem timestamp_eq_none_of_signed : timestamp (sign ++ run) = none := by
  rw [timestamp]
  exact (leavesDigits_digits known filled (by decide)).bind_eq_none fun _ _ all =>
    bind_of_eq_none (mark_eq_none rfl all)

/-- A mail date begins with the name of a day, or with a day and a blank behind it. -/
theorem mailDate_eq_none_of_signed : mailDate (sign ++ run) = none := by
  obtain ⟨c, rest, same, noBlank, unnamed⟩ := exists_signed_eq_cons known filled
  have blanks : blanks (c :: rest) = some ((), c :: rest) := by
    simp [Reader.blanks, Text.trimStart, noBlank]
  have weekday : optionalWeekday (c :: rest) = some (none, c :: rest) := by
    rw [optionalWeekday, unnamed]
  rw [mailDate, same, bind_of_eq_some blanks, bind_of_eq_some weekday, bind_of_eq_some blanks, ← same]
  exact (leavesDigits_digits known filled (by decide)).bind_eq_none fun _ _ all =>
    bind_of_eq_none (someBlanks_eq_none_of_digits all)

/-- The other forms begin with a year and a hyphen behind it. -/
theorem looseDate_eq_none_of_signed : looseDate (sign ++ run) = none := by
  rw [looseDate]
  exact (leavesDigits_looseYear known filled).bind_eq_none fun _ _ all =>
    bind_of_eq_none (mark_eq_none rfl all)

/-- No form of a date with calendar parts reads digits behind a sign. -/
theorem run_form_eq_none_of_signed : ∀ form ∈ forms, form.run (sign ++ run) = none := by
  have date := looseDate_eq_none_of_signed known filled
  simp only [forms, List.forall_mem_cons, List.not_mem_nil, false_imp_iff, implies_true, and_true]
  refine ⟨run_of_eq_none (timestamp_eq_none_of_signed known filled),
    run_of_eq_none (mailDate_eq_none_of_signed known filled), ?_, ?_, ?_⟩
  · exact run_of_eq_none (bind_of_eq_none date)
  · exact run_of_eq_none (bind_of_eq_none date)
  · exact run_of_eq_none (bind_of_eq_none date)

/-- A plus sign keeps digits from being a count of milliseconds, and no other sign does. -/
theorem isTimestampNumber_signed : isTimestampNumber (sign ++ run) = !decide (sign = ['+']) := by
  simp only [Text.signs, List.mem_cons, List.not_mem_nil, or_false] at known
  rcases known with rfl | rfl | rfl
  · obtain ⟨notEmpty, all⟩ := Text.isDigits_iff.mp filled
    unfold isTimestampNumber
    split
    · next eq =>
      rw [List.nil_append] at eq
      exact absurd (all '-' (eq ▸ List.mem_cons_self)) (by decide)
    · exact filled
  · exact filled
  · rfl

end Forms

/-- Every millisecond that instants reach is a number of a word. -/
theorem word64?_of_millis {n : Int} (low : firstMillis ≤ n) (high : n ≤ lastMillis) :
    Text.word64? n = some n := by
  have first : firstMillis = -8334601228800000 := by decide
  have last : lastMillis = 8210266876799999 := by decide
  exact if_pos ⟨by omega, by omega⟩

/-- So nothing is lost by reading the count as a word first. -/
theorem word64?_bind_ofMillis? (n : Int) : (Text.word64? n).bind ofMillis? = ofMillis? n := by
  cases given : ofMillis? n with
  | some instant =>
    obtain ⟨low, high⟩ := exists_isMillis_iff.mp ⟨instant, ofMillis?_eq_some_iff.mp given⟩
    rw [word64?_of_millis low high, Option.bind_some, given]
  | none =>
    rw [Option.bind_eq_none_iff]
    intro read fits
    obtain ⟨_, same⟩ := Option.ite_none_right_eq_some.mp fits
    rw [← Option.some.inj same, given]

/-- The instant that a text of digits behind a sign is read as, if there is one. The calendar forms have no
part in it. -/
theorem ofText?_of_signed {value : String} {sign digits : List Char}
    (written : Text.Signed value.toList sign digits) : ofText? value =
      if sign = ['+'] then none
      else ofMillis? (Text.signedValue (decide (sign = ['-'])) digits) := by
  have passed : forms.findSome? (fun form => (form.run (sign ++ digits)).bind Written.instant?) = none :=
    List.findSome?_eq_none_iff.mpr fun form member => by
      rw [run_form_eq_none_of_signed written.known written.run form member, Option.bind_none]
  simp only [ofText?, written.whole, isTimestampNumber_signed written.known written.run, passed,
    Text.int?_of_signed written.known written.run, word64?_bind_ofMillis?]
  by_cases plus : sign = ['+'] <;> simp [plus]

/-- A text of digits behind a sign, with blanks around it at most, names an integer, which the reader of
leading integers takes from it if a word can hold it. No calendar form reads the text. It is a date exactly
if its sign is no plus sign and instants reach this number of milliseconds from the start of 1970, and then
it is that instant.

Between the first and the last millisecond every number fits a word, so that no date is lost by it. -/
theorem ofText?_eq_some_iff_of_signed {value : String} {sign digits : List Char}
    (written : Text.Signed value.toList sign digits) :
    let n : Int := if sign = ['-'] then -(Text.digitsValue digits : Int) else Text.digitsValue digits
    (∀ form ∈ forms, form.run (Text.trim value.toList) = none) ∧
      Text.leadingInt? value.toList = Text.word64? n ∧
      (∀ instant, ofText? value = some instant ↔ sign ≠ ['+'] ∧ instant.IsMillis n) ∧
      ((∃ instant : Instant, instant.IsMillis n) ↔
        Text.word64? n = some n ∧ firstMillis ≤ n ∧ n ≤ lastMillis) := by
  intro n
  have denoted : Text.signedValue (decide (sign = ['-'])) digits = n := by
    simp [n, Text.signedValue]
  have calendar := run_form_eq_none_of_signed written.known written.run
  have leading := Text.leadingInt?_of_signed written
  have read := ofText?_of_signed written
  rw [denoted] at leading read
  rw [written.whole]
  refine ⟨calendar, leading, fun instant => ?_, ?_⟩
  · rw [read]
    by_cases plus : sign = ['+']
    · simp [plus]
    · rw [if_neg plus, ofMillis?_eq_some_iff]
      exact (and_iff_right plus).symm
  · rw [exists_isMillis_iff]
    exact ⟨fun range => ⟨word64?_of_millis range.1 range.2, range⟩, fun fits => fits.2⟩

/-- Five milliseconds before the start of 1970, with zeros in front and blanks around. -/
theorem five_milliseconds_before :
    let value := "\u00a0-0005\n"
    let before : Instant := ⟨-1, 995000000, by decide, by decide, by decide⟩
    Text.Signed value.toList ['-'] "0005".toList ∧ ofText? value = some before ∧
      Text.leadingInt? value.toList = some (-5) := by
  intro value before
  have written : Text.Signed value.toList ['-'] "0005".toList := ⟨by decide, by decide, by decide⟩
  obtain ⟨_, leading, date, _⟩ := ofText?_eq_some_iff_of_signed written
  exact ⟨written, (date before).mpr ⟨by decide, by decide, by decide, by decide⟩, leading⟩

/-- Five milliseconds after it, a plus sign makes the difference. -/
theorem plus_five_is_no_date :
    let after : Instant := ⟨0, 5000000, by decide, by decide, by decide⟩
    Text.Signed "+5".toList ['+'] ['5'] ∧ Text.leadingInt? "+5".toList = some 5 ∧ after.IsMillis 5 ∧
      ofText? "5" = some after ∧ ofText? "+5" = none := by
  intro after
  have bare : Text.Signed "5".toList [] ['5'] := ⟨by decide, by decide, by decide⟩
  have plus : Text.Signed "+5".toList ['+'] ['5'] := ⟨by decide, by decide, by decide⟩
  refine ⟨plus, by decide, ⟨by decide, by decide, by decide⟩, ?_, ?_⟩
  · rw [ofText?_of_signed bare]
    decide
  · rw [ofText?_of_signed plus]
    rfl

end Instant

end ParamFilter
