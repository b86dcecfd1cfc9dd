import ParamFilter.Text.Blank

/-!
# Whole numbers in text

Two readings of decimal digits. A *count* is the whole text: blanks around it, an optional plus sign
and digits, not above the largest 64-bit word. A *leading integer* is whatever number the text begins
with: the rest of the text is ignored, and the number has to fit a signed 64-bit word. Digits are the
ten ASCII digits in both, and leading zeros are allowed in both.
-/

namespace ParamFilter.Text

/-- The number that a run of decimal digits denotes; the empty run denotes zero. -/
def digitsValue (digits : List Char) : Nat :=
  digits.foldl (fun value digit => 10 * value + (digit.toNat - '0'.toNat)) 0

/-- The value of a hexadecimal digit in either case. -/
def hexDigit? (c : Char) : Option Nat :=
  if c.isDigit then some (c.toNat - '0'.toNat)
  else if 'a' ≤ c && c ≤ 'f' then some (c.toNat - 'a'.toNat + 10)
  else if 'A' ≤ c && c ≤ 'F' then some (c.toNat - 'A'.toNat + 10)
  else none

/-- The number that a run of digits of some base up to sixteen denotes. It needs at least one digit. -/
def radixValue? (radix : Nat) (digits : List Char) : Option Nat :=
  if digits.isEmpty then none
  else digits.foldlM (fun value c => do
    let digit ← hexDigit? c
    if digit < radix then some (radix * value + digit) else none) 0

/-- Whether the text is made of digits and holds at least one. -/
def isDigits (text : List Char) : Bool := !text.isEmpty && text.all Char.isDigit

theorem isDigits_iff {text : List Char} :
    isDigits text = true ↔ text ≠ [] ∧ ∀ c ∈ text, c.isDigit = true := by
  simp [isDigits]

/-- Splits off one sign. A text without a sign counts as positive. -/
def splitSign : List Char → Bool × List Char
  | '-' :: rest => (true, rest)
  | '+' :: rest => (false, rest)
  | text => (false, text)

/-- The integer that a sign and a run of digits denote. -/
def signedValue (negative : Bool) (digits : List Char) : Int :=
  if negative then -(digitsValue digits : Int) else digitsValue digits

/-- The largest count, which fills an unsigned word of 64 bits. -/
def maxCount : Nat := 18446744073709551615

/-- Reads a whole text as a count: an optional plus sign and digits. -/
def count? (text : List Char) : Option Nat :=
  let digits := match text with
    | '+' :: rest => rest
    | _ => text
  if isDigits digits && digitsValue digits ≤ maxCount then some (digitsValue digits) else none

/-- Passes on the integers that a signed 64-bit word can hold. -/
def word64? (n : Int) : Option Int :=
  if -9223372036854775808 ≤ n ∧ n ≤ 9223372036854775807 then some n else none

/-- Reads the integer that a text begins with, after blanks and one sign. -/
def leadingInt? (text : List Char) : Option Int :=
  let (negative, rest) := splitSign (trimStart text)
  let digits := rest.takeWhile Char.isDigit
  if digits.isEmpty then none else word64? (signedValue negative digits)

/-- Reads a whole text as an integer: an optional sign and digits. -/
def int? (text : List Char) : Option Int :=
  let (negative, digits) := splitSign text
  if isDigits digits then word64? (signedValue negative digits) else none

/-- The digits of a number, padded with zeros in front to at least `width` digits. -/
def padded (width n : Nat) : List Char :=
  let digits := Nat.toDigits 10 n
  List.replicate (width - digits.length) '0' ++ digits

example : leadingInt? " -9223372036854775808x".toList = some (-9223372036854775808) := by decide
example : leadingInt? "9223372036854775808".toList = none := by decide
example : count? "+007".toList = some 7 := by decide

end ParamFilter.Text
