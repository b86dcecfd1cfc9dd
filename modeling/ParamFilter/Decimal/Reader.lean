import ParamFilter.Decimal.Shortest
import ParamFilter.Text.Integer

/-!
# Doubles in text

The decimal notation of coordinates and distances: an optional sign, digits with an optional point,
and an optional power of ten; or one of the words for infinity and for a value that is no number, in
any case. The value is the nearest double, so a large enough number reads as infinity.
-/

namespace ParamFilter

namespace Decimal

/-- Reads the power of ten that may follow the digits. Nothing may follow it. -/
def exponent? : List Char → Option Int
  | [] => some 0
  | mark :: text =>
    let (negative, digits) := Text.splitSign text
    if (mark = 'e' ∨ mark = 'E') ∧ Text.isDigits digits then some (Text.signedValue negative digits)
    else none

/-- Reads digits around an optional point, with an optional power of ten. At least one digit has to
    stand before the power. -/
def ofText? (text : List Char) : Option Decimal :=
  let whole := text.takeWhile Char.isDigit
  let behind := text.dropWhile Char.isDigit
  let (fraction, rest) := match behind with
    | '.' :: tail => (tail.takeWhile Char.isDigit, tail.dropWhile Char.isDigit)
    | _ => ([], behind)
  let digits := whole ++ fraction
  if digits.isEmpty then none
  else (exponent? rest).map fun exponent =>
    ⟨Text.digitsValue digits, exponent - fraction.length⟩

/-- The double nearest to a decimal. Decimals far outside the range of doubles are settled by their
    leading digit alone. -/
def toFloat (d : Decimal) : Float :=
  let leading := d.exponent + d.width
  if d.digits = 0 ∨ leading < -400 then 0.0
  else if 400 < leading then 1.0 / 0.0
  else Float.ofScientific d.digits (decide (d.exponent < 0)) d.exponent.natAbs

end Decimal

namespace Text

/-- The magnitude that an unsigned text denotes. -/
def magnitude? (text : List Char) : Option Float :=
  let word := text.map Char.toLower
  if word = "inf".toList ∨ word = "infinity".toList then some (1.0 / 0.0)
  else if word = "nan".toList then some (0.0 / 0.0)
  else (Decimal.ofText? text).map Decimal.toFloat

/-- Reads a whole text as a double. -/
def float? (text : List Char) : Option Float :=
  let (negative, rest) := splitSign text
  (magnitude? rest).map fun x => if negative then -x else x

end Text

end ParamFilter
