/-!
# The shortest decimal of a double

A double stands for an interval of reals: those that round to it. This module finds the decimal with the
fewest digits in that interval. For one digit, two digits and so on up to seventeen it takes the two
neighbours of the double on that decimal grid and tests them against the interval in exact whole-number
arithmetic; the first grid with a hit wins. Of two hits the nearer one is taken, and the even one when
both are equally near.
-/

namespace ParamFilter

/-- The decimal `digits · 10 ^ exponent`. -/
structure Decimal where
  digits : Nat
  exponent : Int
  deriving DecidableEq, Repr

/-- The magnitude `significand · 2 ^ exponent` of a double. `narrowBelow` says that the next double
    below is only half as far away as the next one above. -/
structure Binary where
  significand : Nat
  exponent : Int
  narrowBelow : Bool
  deriving DecidableEq, Repr

namespace Binary

/-- Decodes the bits of a finite double; the sign bit is ignored. -/
def ofBits (bits : Nat) : Binary :=
  let fraction : Nat := bits % Nat.pow 2 52
  let biased : Nat := bits / Nat.pow 2 52 % Nat.pow 2 11
  if biased = 0 then ⟨fraction, -1074, false⟩
  else ⟨Nat.pow 2 52 + fraction, (biased : Int) - 1075, fraction == 0 && biased != 1⟩

/-- The significand in units of a quarter, so that the ends of the interval are whole numbers too. -/
def quarters (b : Binary) : Nat := 4 * b.significand

/-- The lower end of the interval of reals that round to the double, in quarters. -/
def low (b : Binary) : Nat := b.quarters - if b.narrowBelow then 1 else 2

/-- The upper end of the interval, in quarters. -/
def high (b : Binary) : Nat := b.quarters + 2

/-- The factor that turns steps of the decimal grid `10 ^ exponent` into common units. -/
def decimalUnit (b : Binary) (exponent : Int) : Nat :=
  Nat.pow 10 exponent.toNat * Nat.pow 2 (2 - b.exponent).toNat

/-- The factor that turns quarters into the same common units. -/
def quarterUnit (b : Binary) (exponent : Int) : Nat :=
  Nat.pow 2 (b.exponent - 2).toNat * Nat.pow 10 (-exponent).toNat

/-- Whether `digits · 10 ^ exponent` rounds to the double. The ends of the interval do so when the
    significand is even. -/
def readsBack (b : Binary) (digits : Nat) (exponent : Int) : Bool :=
  let point := digits * b.decimalUnit exponent
  let low := b.low * b.quarterUnit exponent
  let high := b.high * b.quarterUnit exponent
  if b.significand % 2 = 0 then low ≤ point && point ≤ high else low < point && point < high

/-- The grid point just below the double, or the double itself. -/
def below (b : Binary) (exponent : Int) : Nat :=
  b.quarters * b.quarterUnit exponent / b.decimalUnit exponent

/-- The better of the two neighbours on one grid, if one of them reads back. -/
def neighbour? (b : Binary) (exponent : Int) : Option Nat :=
  let down := b.below exponent
  match b.readsBack down exponent, b.readsBack (down + 1) exponent with
  | false, false => none
  | true, false => some down
  | false, true => some (down + 1)
  | true, true =>
    let value := b.quarters * b.quarterUnit exponent
    let unit := b.decimalUnit exponent
    match compare (value - down * unit) ((down + 1) * unit - value) with
    | .lt => some down
    | .gt => some (down + 1)
    | .eq => some (if down % 2 = 0 then down else down + 1)

/-- The exponent of the leading decimal digit of a magnitude that is not zero. -/
def leadingExponent (b : Binary) : Int :=
  let numerator := b.quarters * b.quarterUnit 0
  let denominator := b.decimalUnit 0
  if denominator ≤ numerator then
    ((Nat.toDigits 10 (numerator / denominator)).length : Int) - 1
  else
    let width := (Nat.toDigits 10 (denominator / numerator)).length
    if denominator ≤ numerator * Nat.pow 10 (width - 1) then 1 - (width : Int) else -(width : Int)

end Binary

namespace Decimal

/-- Moves the zeros at the end of the digits into the exponent. -/
def stripZeros (d : Decimal) : Decimal :=
  if 0 < d.digits ∧ d.digits % 10 = 0 then stripZeros ⟨d.digits / 10, d.exponent + 1⟩ else d
termination_by d.digits

/-- The decimal with the fewest digits that rounds to a magnitude. Seventeen digits always suffice. -/
def shortest (b : Binary) : Decimal :=
  if b.significand = 0 then ⟨0, 0⟩
  else
    let leading := b.leadingExponent
    let found := (List.range 17).findSome? fun (more : Nat) =>
      let exponent := leading - more
      (b.neighbour? exponent).map fun digits => Decimal.mk digits exponent
    (found.getD ⟨b.below (leading - 16), leading - 16⟩).stripZeros

/-- How many digits are written. -/
def width (d : Decimal) : Nat := (Nat.toDigits 10 d.digits).length

end Decimal

end ParamFilter
