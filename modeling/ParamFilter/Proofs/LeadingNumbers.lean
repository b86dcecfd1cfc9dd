import Mathlib
import ParamFilter.Proofs.Digits
import ParamFilter.Text.Utf8

/-!
# Numbers that texts begin with

A text begins with a number if there is a digit behind its blanks and one sign at most. The number takes
all digits that follow, and whatever is behind them has no part in it. It is read if a signed word of 64
bits can hold it, and then exactly; one more than the largest and one less than the smallest word are
refused. Zeros in front count for nothing, so the number of digits says nothing about the size.

The number may be measured in bytes as well. Signs and digits are single bytes, and no byte of another
character looks like one of them in its first place, so that a cut behind the last digit never goes through
a character. What a number is good for, once read, is not a matter of this module.
-/

namespace ParamFilter.Text

/-- A text that begins with a number: blanks, a sign that may be missing, digits, and a tail that does not
go on with a digit. -/
structure Begins (text blanks sign digits tail : List Char) : Prop where
  whole : text = blanks ++ (sign ++ (digits ++ tail))
  blank : ∀ c ∈ blanks, isBlank c = true
  known : sign ∈ signs
  run : isDigits digits = true
  ends : ∀ c ∈ tail.head?, c.isDigit = false

section Reading

variable {text blanks sign digits tail : List Char}

/-- Blanks in front are dropped, and nothing behind them: a sign is no blank, and no digit is one. -/
theorem Begins.trimStart_eq (begins : Begins text blanks sign digits tail) :
    trimStart text = sign ++ (digits ++ tail) := by
  obtain ⟨rfl, blank, known, run, _⟩ := begins
  rw [trimStart, List.dropWhile_append_of_pos blank]
  simp only [signs, List.mem_cons, List.not_mem_nil, or_false] at known
  rcases known with rfl | rfl | rfl
  · obtain ⟨filled, all⟩ := isDigits_iff.mp run
    obtain ⟨c, others, rfl⟩ := List.exists_cons_of_ne_nil filled
    have noBlank : isBlank c = false := (plain_of_isDigit (all c List.mem_cons_self)).1
    exact List.dropWhile_cons_of_neg (by simp [noBlank])
  · rfl
  · rfl

/-- The number that a text begins with is read if a word can hold it. -/
theorem Begins.leadingInt?_eq (begins : Begins text blanks sign digits tail) :
    leadingInt? text = word64? (signedValue (decide (sign = ['-'])) digits) := by
  obtain ⟨filled, all⟩ := isDigits_iff.mp begins.run
  have taken := (span_digits tail all begins.ends).1
  have notEmpty : digits.isEmpty = false := by simpa using filled
  simp only [leadingInt?, begins.trimStart_eq, splitSign_append begins.known begins.run, taken,
    notEmpty, Bool.false_eq_true, if_false]

/-- From a text that begins with no number none is read. -/
theorem begins_or_leadingInt?_eq_none (text : List Char) :
    (∃ blanks sign digits tail, Begins text blanks sign digits tail) ∨ leadingInt? text = none := by
  obtain ⟨sign, known, whole, _⟩ := exists_sign (trimStart text)
  by_cases missing : (splitSign (trimStart text)).2.takeWhile Char.isDigit = []
  · right
    simp [leadingInt?, missing]
  · left
    refine ⟨text.takeWhile isBlank, sign, _, (splitSign (trimStart text)).2.dropWhile Char.isDigit,
      ?_, fun c => List.mem_takeWhile_imp, known,
      isDigits_iff.mpr ⟨missing, fun c => List.mem_takeWhile_imp⟩, fun c first => ?_⟩
    · rw [List.takeWhile_append_dropWhile, ← whole]
      exact List.takeWhile_append_dropWhile.symm
    · have stopped := List.head?_dropWhile_not Char.isDigit (splitSign (trimStart text)).2
      rw [Option.mem_def.mp first] at stopped
      exact stopped

/-- A run of digits begins with a number that is all of it. -/
theorem leadingInt?_of_isDigits (run : isDigits text = true) :
    leadingInt? text = word64? (digitsValue text) := by
  have begins : Begins text [] [] text [] :=
    ⟨by simp, by simp, List.mem_cons_self, run, by simp⟩
  exact begins.leadingInt?_eq

end Reading

section Values

/-- The integer that digits behind a sign denote by their places: the last digit counts ones, the digit in
front of it tens, and so on. -/
def placeValue (sign digits : List Char) : Int :=
  (if sign = ['-'] then -1 else 1) *
    (Nat.ofDigits 10 (digits.reverse.map fun digit => digit.toNat - '0'.toNat) : Nat)

/-- Reading digits from the left gives the same as counting their places from the right. -/
theorem digitsValue_eq_ofDigits (digits : List Char) : digitsValue digits =
    Nat.ofDigits 10 (digits.reverse.map fun digit => digit.toNat - '0'.toNat) := by
  induction digits using List.reverseRecOn with
  | nil => rfl
  | append_singleton front last ih =>
    rw [List.reverse_append, List.reverse_singleton, List.singleton_append, List.map_cons,
      Nat.ofDigits_cons, ← ih, digitsValue, List.foldl_append, List.foldl_cons, List.foldl_nil,
      Nat.add_comm]
    rfl

theorem signedValue_eq_placeValue (sign digits : List Char) :
    signedValue (decide (sign = ['-'])) digits = placeValue sign digits := by
  rw [placeValue, ← digitsValue_eq_ofDigits, signedValue]
  by_cases minus : sign = ['-'] <;> simp [minus]

/-- The integers of a word lie between its two limits. -/
theorem word64?_eq (n : Int) :
    word64? n = if -2 ^ 63 ≤ n ∧ n ≤ 2 ^ 63 - 1 then some n else none := by
  norm_num [word64?]

/-- From a text that begins with a number, this number is read, if it lies between the limits. -/
theorem Begins.leadingInt?_eq_some_iff {text blanks sign digits tail : List Char}
    (begins : Begins text blanks sign digits tail) {n : Int} : leadingInt? text = some n ↔
      placeValue sign digits = n ∧ -2 ^ 63 ≤ n ∧ n ≤ 2 ^ 63 - 1 := by
  rw [begins.leadingInt?_eq, signedValue_eq_placeValue, word64?_eq, Option.ite_none_right_eq_some,
    Option.some.injEq]
  constructor
  · rintro ⟨fits, rfl⟩
    exact ⟨rfl, fits⟩
  · rintro ⟨rfl, fits⟩
    exact ⟨fits, rfl⟩

/-- The decimal text of an integer with zeros in front of its digits, behind the sign if there is one. -/
def zeroPadded (zeros : Nat) (n : Int) : List Char :=
  match (toString n).toList with
  | '-' :: digits => '-' :: (List.replicate zeros '0' ++ digits)
  | digits => List.replicate zeros '0' ++ digits

theorem zeroPadded_eq (zeros : Nat) (n : Int) : zeroPadded zeros n =
    (if n < 0 then ['-'] else []) ++ (List.replicate zeros '0' ++ Nat.toDigits 10 n.natAbs) := by
  rw [zeroPadded, toList_toString]
  by_cases negative : n < 0
  · simp only [negative, if_true]
    rfl
  · simp only [negative, if_false]
    split
    · next eq =>
      -- The text would begin with the sign and with a digit.
      have digit := (isDigits_iff.mp (isDigits_toDigits n.natAbs)).2 '-' (eq ▸ List.mem_cons_self)
      exact absurd digit (by decide)
    · rfl

/-- The text of an integer may stand behind blanks and in front of anything that does not go on with a
digit. -/
theorem begins_zeroPadded {blanks tail : List Char} (blank : ∀ c ∈ blanks, isBlank c = true)
    (ends : ∀ c ∈ tail.head?, c.isDigit = false) (zeros : Nat) (n : Int) :
    Begins (blanks ++ (zeroPadded zeros n ++ tail)) blanks (if n < 0 then ['-'] else [])
      (List.replicate zeros '0' ++ Nat.toDigits 10 n.natAbs) tail where
  whole := by rw [zeroPadded_eq, List.append_assoc]
  blank := blank
  known := by split <;> simp [signs]
  run := isDigits_replicate_append zeros (isDigits_toDigits n.natAbs)
  ends := ends

/-- It is read as this integer, if a word can hold it. -/
theorem leadingInt?_zeroPadded {blanks tail : List Char} (blank : ∀ c ∈ blanks, isBlank c = true)
    (ends : ∀ c ∈ tail.head?, c.isDigit = false) (zeros : Nat) (n : Int) :
    leadingInt? (blanks ++ (zeroPadded zeros n ++ tail)) = word64? n := by
  have minus : decide ((if n < 0 then ['-'] else []) = ['-']) = decide (n < 0) := by
    by_cases negative : n < 0 <;> simp [negative]
  rw [(begins_zeroPadded blank ends zeros n).leadingInt?_eq, minus, signedValue_toDigits]

end Values

section Bytes

open Utf8

/-- A byte that is a digit. -/
def isDigitByte (b : Nat) : Bool := 48 ≤ b && b ≤ 57

/-- How many bytes the sign in front takes, if there is one. The codes of the two signs are 43 and 45. -/
def signBytes : List Nat → Nat
  | 43 :: _ | 45 :: _ => 1
  | _ => 0

/-- The number in front of a text, measured in the bytes of the text: the byte of a sign, if there is one,
and every byte behind it that is a digit. -/
def numberBytes (bytes : List Nat) : List Nat :=
  bytes.take (signBytes bytes + ((bytes.drop (signBytes bytes)).takeWhile isDigitByte).length)

/-- Every character has a first byte, and where this is below 128 it is the code of the character. -/
theorem exists_encodeChar_eq_cons (c : Char) :
    ∃ first more, encodeChar c = first :: more ∧ (first < 0x80 → first = c.toNat) := by
  rw [encodeChar_eq]
  split_ifs <;> exact ⟨_, _, rfl, by omega⟩

theorem encodeChar_of_isDigit {c : Char} (digit : c.isDigit = true) : encodeChar c = [c.toNat] := by
  obtain ⟨_, high⟩ := isDigit_iff.mp digit
  rw [encodeChar_eq, if_pos (by omega)]

/-- The digits that a text begins with are the digits that its bytes begin with. -/
theorem takeWhile_encode (text : List Char) :
    (encode text).takeWhile isDigitByte = encode (text.takeWhile Char.isDigit) := by
  induction text with
  | nil => rfl
  | cons c rest ih =>
    rw [encode_cons]
    by_cases digit : c.isDigit = true
    · have byte : isDigitByte c.toNat = true := by simpa [isDigitByte] using isDigit_iff.mp digit
      rw [List.takeWhile_cons_of_pos digit, encode_cons, encodeChar_of_isDigit digit,
        List.singleton_append, List.singleton_append, List.takeWhile_cons_of_pos byte, ih]
    · obtain ⟨first, more, bytes, single⟩ := exists_encodeChar_eq_cons c
      have noByte : ¬isDigitByte first = true := by
        intro byte
        obtain ⟨low, high⟩ : 48 ≤ first ∧ first ≤ 57 := by simpa [isDigitByte] using byte
        have same : first = c.toNat := single (by omega)
        exact digit (isDigit_iff.mpr (same ▸ ⟨low, high⟩))
      rw [bytes, List.cons_append, List.takeWhile_cons_of_neg noByte, List.takeWhile_cons_of_neg digit]
      rfl

/-- In front of digits a sign takes one byte, and no sign takes none. -/
theorem signBytes_encode {sign digits : List Char} (known : sign ∈ signs)
    (run : isDigits digits = true) (tail : List Char) :
    signBytes (encode (sign ++ (digits ++ tail))) = (encode sign).length := by
  simp only [signs, List.mem_cons, List.not_mem_nil, or_false] at known
  rcases known with rfl | rfl | rfl
  · obtain ⟨filled, all⟩ := isDigits_iff.mp run
    obtain ⟨c, others, rfl⟩ := List.exists_cons_of_ne_nil filled
    have digit := all c List.mem_cons_self
    obtain ⟨low, _⟩ := isDigit_iff.mp digit
    rw [List.nil_append, List.cons_append, encode_cons, encodeChar_of_isDigit digit,
      List.singleton_append]
    unfold signBytes
    split
    · next eq => exact absurd (List.cons.inj eq).1 (by omega)
    · next eq => exact absurd (List.cons.inj eq).1 (by omega)
    · rfl
  · rfl
  · rfl

/-- Measured in bytes, the number is cut off between two characters. -/
theorem numberBytes_encode {sign digits tail : List Char} (known : sign ∈ signs)
    (run : isDigits digits = true) (ends : ∀ c ∈ tail.head?, c.isDigit = false) :
    numberBytes (encode (sign ++ (digits ++ tail))) = encode (sign ++ digits) := by
  have taken := (span_digits tail (isDigits_iff.mp run).2 ends).1
  rw [numberBytes, signBytes_encode known run, encode_append sign (digits ++ tail), List.drop_left,
    takeWhile_encode, taken, encode_append digits, ← List.append_assoc, ← encode_append sign,
    ← List.length_append, ← encode_append, List.take_left]

end Bytes

/-- Leading numbers are read exactly, up to both limits of a word.

A number is read from a text if and only if the text begins with one that a word can hold, and it is that
number: what the sign and the whole run of digits denote by their places. Measured in bytes the number takes
the same characters. In particular the text of an integer gives it back, with any blanks and zeros in front
and any tail that does not go on with a digit, if a word can hold it. Otherwise nothing is read. -/
theorem leadingInt?_exact (text : List Char) (n : Int) :
    (leadingInt? text = some n ↔ ∃ blanks sign digits tail, Begins text blanks sign digits tail ∧
      placeValue sign digits = n ∧ -2 ^ 63 ≤ n ∧ n ≤ 2 ^ 63 - 1) ∧
    (∀ blanks sign digits tail, Begins text blanks sign digits tail →
      numberBytes (Utf8.encode (trimStart text)) = Utf8.encode (sign ++ digits)) ∧
    ∀ blanks zeros tail, (∀ c ∈ blanks, isBlank c = true) → (∀ c ∈ tail.head?, c.isDigit = false) →
      leadingInt? (blanks ++ (zeroPadded zeros n ++ tail)) =
        if -2 ^ 63 ≤ n ∧ n ≤ 2 ^ 63 - 1 then some n else none := by
  refine ⟨⟨fun read => ?_, ?_⟩, ?_, ?_⟩
  · rcases begins_or_leadingInt?_eq_none text with ⟨blanks, sign, digits, tail, begins⟩ | nothing
    · exact ⟨blanks, sign, digits, tail, begins, begins.leadingInt?_eq_some_iff.mp read⟩
    · cases nothing.symm.trans read
  · rintro ⟨blanks, sign, digits, tail, begins, denotes⟩
    exact begins.leadingInt?_eq_some_iff.mpr denotes
  · intro blanks sign digits tail begins
    rw [begins.trimStart_eq, numberBytes_encode begins.known begins.run begins.ends]
  · intro blanks zeros tail blank ends
    rw [leadingInt?_zeroPadded blank ends, word64?_eq]

/-- The smallest number of a word, behind a blank and zeros and in front of a letter of two bytes. One less is
refused in the same place. -/
theorem smallest_number_of_a_word :
    let text := "\u2003-009223372036854775808é".toList
    Begins text ['\u2003'] ['-'] "009223372036854775808".toList ['é'] ∧
      leadingInt? text = some (-9223372036854775808) ∧
      numberBytes (Utf8.encode (trimStart text)) = Utf8.encode "-009223372036854775808".toList ∧
      leadingInt? (['\u2003'] ++ (zeroPadded 2 (-9223372036854775808) ++ ['é'])) =
        some (-9223372036854775808) ∧
      leadingInt? (['\u2003'] ++ (zeroPadded 2 (-9223372036854775809) ++ ['é'])) = none := by
  intro text
  have blank : ∀ c ∈ ['\u2003'], isBlank c = true := by simp [isBlank]
  have ends : ∀ c ∈ ['é'].head?, c.isDigit = false := by simp [Char.isDigit]
  have begins : Begins text ['\u2003'] ['-'] "009223372036854775808".toList ['é'] :=
    ⟨by decide, blank, by decide, by decide, ends⟩
  have value : placeValue ['-'] "009223372036854775808".toList = -9223372036854775808 := by decide
  obtain ⟨read, bytes, padded⟩ := leadingInt?_exact text (-9223372036854775808)
  obtain ⟨_, _, beyond⟩ := leadingInt?_exact text (-9223372036854775809)
  refine ⟨begins, read.mpr ⟨_, _, _, _, begins, value, by norm_num, by norm_num⟩,
    bytes _ _ _ _ begins, ?_, ?_⟩
  · rw [padded _ 2 _ blank ends, if_pos (by norm_num)]
  · rw [beyond _ 2 _ blank ends, if_neg (by norm_num)]

end ParamFilter.Text
