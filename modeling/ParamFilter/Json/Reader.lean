import ParamFilter.Json
import ParamFilter.Text.Integer

/-!
# Reading JSON

Strict JSON: no comments, no trailing commas, no controls in texts, no lone surrogates. Lists and
objects nest at most 127 deep, which is what the recursion counts down. Of two fields with one key the
last one counts.

A number with a fraction or an exponent, or too large for a word, is read from the digits that fit one
unsigned 64-bit word, scaled once by a power of ten. That is not always the nearest double; but it is
the same for everyone who reads numbers this way. A number beyond the range of doubles is an error.
-/

namespace ParamFilter.Json

/-- The four blanks that JSON allows around values. -/
def isBlank (c : Char) : Bool := c == ' ' || c == '\n' || c == '\t' || c == '\r'

/-- Drops blanks. -/
def skipBlanks (text : List Char) : List Char := text.dropWhile isBlank

/-- The value of four hexadecimal digits. -/
def unit? (a b c d : Char) : Option Nat := do
  let high := 16 * (← Text.hexDigit? a) + (← Text.hexDigit? b)
  let low := 16 * (← Text.hexDigit? c) + (← Text.hexDigit? d)
  return 256 * high + low

/-- The character of an escape, read from behind the backslash, and how many characters it takes. Two
    escaped surrogates make one character, and a surrogate on its own makes none. -/
def escape? : List Char → Option (Char × Nat)
  | '"' :: _ => some ('"', 1)
  | '\\' :: _ => some ('\\', 1)
  | '/' :: _ => some ('/', 1)
  | 'b' :: _ => some ('\x08', 1)
  | 'f' :: _ => some ('\x0c', 1)
  | 'n' :: _ => some ('\n', 1)
  | 'r' :: _ => some ('\r', 1)
  | 't' :: _ => some ('\t', 1)
  | 'u' :: a :: b :: c :: d :: rest =>
    match unit? a b c d with
    | none => none
    | some unit =>
      if unit < 0xd800 || 0xdfff < unit then some (Char.ofNat unit, 5)
      else if 0xdc00 ≤ unit then none
      else match rest with
        | '\\' :: 'u' :: a :: b :: c :: d :: _ =>
          match unit? a b c d with
          | none => none
          | some low =>
            if 0xdc00 ≤ low && low ≤ 0xdfff then
              some (Char.ofNat (0x10000 + (unit - 0xd800) * 0x400 + (low - 0xdc00)), 11)
            else none
        | _ => none
  | _ => none

/-- Reads a text up to its closing quote. -/
def textBody? : List Char → Option (List Char × List Char)
  | [] => none
  | c :: rest =>
    if c = '"' then some ([], rest)
    else if c = '\\' then
      match escape? rest with
      | none => none
      | some (escaped, used) =>
        (textBody? (rest.drop used)).map fun (body, behind) => (escaped :: body, behind)
    else if c < ' ' then none
    else (textBody? rest).map fun (body, behind) => (c :: body, behind)
termination_by text => text.length
decreasing_by
  · simp only [List.length_drop, List.length_cons]; omega
  · simp

/-- Takes digits into a significand as long as it fits an unsigned 64-bit word, and leaves the rest. -/
def takeDigits (significand : Nat) : List Char → Nat × List Char
  | [] => (significand, [])
  | digit :: rest =>
    let next := 10 * significand + Text.digitsValue [digit]
    if next ≤ Text.maxCount then takeDigits next rest else (significand, digit :: rest)

/-- Scales by a power of ten, in one step where the power is a double itself. Nothing results where the
    value leaves the range of doubles. -/
def scale? (x : Float) (exponent : Int) : Option Float :=
  if exponent.natAbs ≤ 308 then
    let power := Float.ofScientific 1 false exponent.natAbs
    let scaled := if exponent < 0 then x / power else x * power
    if scaled.isInf then none else some scaled
  else if x == 0.0 then some x
  else if 0 < exponent then none
  else scale? (x / Float.ofScientific 1 false 308) (exponent + 308)
termination_by exponent.natAbs

/-- The digits of a number in its three parts. A part that is written holds at least one digit. -/
structure NumberText where
  whole : List Char
  fraction : Option (List Char)
  power : Option (Bool × List Char)

/-- The point and the digits behind it, if they are there. -/
def fraction? : List Char → Option (Option (List Char) × List Char)
  | '.' :: text =>
    let digits := text.takeWhile Char.isDigit
    if digits.isEmpty then none else some (some digits, text.dropWhile Char.isDigit)
  | text => some (none, text)

/-- The power of ten, if it is there. -/
def power? : List Char → Option (Option (Bool × List Char) × List Char)
  | [] => some (none, [])
  | c :: text =>
    if c = 'e' ∨ c = 'E' then
      let (negative, rest) := Text.splitSign text
      let digits := rest.takeWhile Char.isDigit
      if digits.isEmpty then none
      else some (some (negative, digits), rest.dropWhile Char.isDigit)
    else some (none, c :: text)

/-- Cuts an unsigned number from the front of a text. A number of several digits does not start with
    zero. -/
def numberText? (text : List Char) : Option (NumberText × List Char) :=
  let whole := text.takeWhile Char.isDigit
  if whole.isEmpty ∨ (whole.head? = some '0' ∧ 1 < whole.length) then none
  else do
    let (fraction, text) ← fraction? (text.dropWhile Char.isDigit)
    let (power, text) ← power? text
    return (⟨whole, fraction, power⟩, text)

/-- The double of a number that is no whole number of a word's size. A power of ten that does not even
    fit a signed 32-bit word settles the value by its sign. -/
def NumberText.float? (number : NumberText) : Option Float :=
  let (significand, wholeLeft) := takeDigits 0 number.whole
  let fraction := number.fraction.getD []
  let (significand, fractionLeft) := takeDigits significand fraction
  let shift : Int := (wholeLeft.length : Int) + fractionLeft.length - fraction.length
  let (negative, digits) := number.power.getD (false, [])
  let power := Text.digitsValue digits
  if Nat.pow 2 31 ≤ power then
    if significand ≠ 0 ∧ !negative then none else some 0.0
  else scale? (Float.ofNat significand) (shift + Text.signedValue negative digits)

/-- The value of a number. Zero with a minus sign is a double, because no whole number is. -/
def NumberText.value? (number : NumberText) (negative : Bool) : Option Json :=
  let n := Text.digitsValue number.whole
  if number.fraction.isNone ∧ number.power.isNone ∧ n ≤ Text.maxCount ∧
      (negative → 0 < n ∧ n ≤ Nat.pow 2 63) then
    some (.int (if negative then -(n : Int) else n))
  else number.float?.map fun x => .float (if negative then -x else x)

/-- Reads a number whose sign has been read. -/
def number? (negative : Bool) (text : List Char) : Option (Json × List Char) := do
  let (number, rest) ← numberText? text
  return (← number.value? negative, rest)

/-- Reads what follows the first item of a list: commas with items behind them, and the closing mark.
    `steps` is at least the number of items. -/
def moreItems? {α : Type} (item : List Char → Option (α × List Char)) (close : Char) :
    Nat → List Char → Option (List α × List Char)
  | 0, _ => none
  | steps + 1, text =>
    match skipBlanks text with
    | [] => none
    | c :: rest =>
      if c = close then some ([], rest)
      else if c = ',' then do
        let (first, rest) ← item (skipBlanks rest)
        let (others, rest) ← moreItems? item close steps rest
        return (first :: others, rest)
      else none

/-- Reads items between commas up to the closing mark. No item is the length of the text away from it,
    since every item takes a character. -/
def items? {α : Type} (item : List Char → Option (α × List Char)) (close : Char)
    (text : List Char) : Option (List α × List Char) :=
  match skipBlanks text with
  | [] => none
  | c :: rest =>
    if c = close then some ([], rest)
    else do
      let (first, rest) ← item (c :: rest)
      let (others, rest) ← moreItems? item close (rest.length + 1) rest
      return (first :: others, rest)

/-- Reads a key, a colon and a value. -/
def field? (value : List Char → Option (Json × List Char)) :
    List Char → Option ((String × Json) × List Char)
  | '"' :: text => do
    let (key, rest) ← textBody? text
    match skipBlanks rest with
    | ':' :: rest =>
      let (held, rest) ← value (skipBlanks rest)
      return ((String.ofList key, held), rest)
    | _ => none
  | _ => none

/-- Reads one value from the front of a text. `depth` is how many lists and objects may still open. -/
def value? (depth : Nat) (text : List Char) : Option (Json × List Char) :=
  match text with
  | 'n' :: 'u' :: 'l' :: 'l' :: rest => some (.null, rest)
  | 't' :: 'r' :: 'u' :: 'e' :: rest => some (.bool true, rest)
  | 'f' :: 'a' :: 'l' :: 's' :: 'e' :: rest => some (.bool false, rest)
  | '"' :: rest => (textBody? rest).map fun (body, rest) => (.str (String.ofList body), rest)
  | '-' :: rest => number? true rest
  | '[' :: rest =>
    match depth with
    | 0 => none
    | depth + 1 => (items? (value? depth) ']' rest).map fun (items, rest) => (.arr items, rest)
  | '\x7b' :: rest =>
    match depth with
    | 0 => none
    | depth + 1 =>
      (items? (field? (value? depth)) '\x7d' rest).map fun (fields, rest) => (ofFields fields, rest)
  | _ => number? false text

/-- How deep lists and objects may nest. -/
def maxDepth : Nat := 127

/-- Reads a whole text as one value. -/
def ofText? (text : String) : Option Json := do
  let (value, rest) ← value? maxDepth (skipBlanks text.toList)
  if (skipBlanks rest).isEmpty then some value else none

end ParamFilter.Json
