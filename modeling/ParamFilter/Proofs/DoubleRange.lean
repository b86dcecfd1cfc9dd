import Mathlib
import ParamFilter.Decimal.Reader

/-!
# The range of doubles

A decimal is read as the double nearest to it, and as infinity if it is too large for that. The bound lies
half way between the largest double and `2 ^ 1024`, the number that would come next. What is below it is
read as a finite double, and nothing else is; at the bound itself the tie goes to the even mantissa, which
is the one that does not fit.

A double is a mantissa of 53 bits and an exponent of at most 971. So the question is always where the
exponent ends up. Rounding shifts a mantissa until 53 bits are left and may carry once, products and
quotients are rounded once, and a decimal is a product with a power of ten or a quotient by one. Short
decimals take another way, on which two doubles are multiplied or divided; it stays far below the bound.

Nothing is said here of which double is read, only of whether it is finite.
-/

namespace ParamFilter

namespace Double

open Float.Model (Format totalExponent UnpackedFloat)
open Float.Model.UnpackedFloat

section Storing

/-- The number is zero, or finite with an exponent of at most `top`. -/
def ExponentAtMost (top : Int) : UnpackedFloat → Prop
  | .zero _ => True
  | .finite _ _ exponent _ => exponent ≤ top
  | _ => False

/-- The number is zero, or has a mantissa of at most 53 bits and an exponent of at most `top`. -/
def Below (top : Int) : UnpackedFloat → Prop
  | .zero _ => True
  | .finite _ mantissa exponent _ => mantissa < 2 ^ 53 ∧ exponent ≤ top
  | _ => False

/-- The number has a mantissa of exactly 53 bits and an exponent from `bottom` to `top`. -/
def Normal (bottom top : Int) : UnpackedFloat → Prop
  | .finite _ mantissa exponent _ =>
    2 ^ 52 ≤ mantissa ∧ mantissa < 2 ^ 53 ∧ bottom ≤ exponent ∧ exponent ≤ top
  | _ => False

instance (bottom top : Int) : DecidablePred (Normal bottom top)
  | .finite .. => inferInstanceAs (Decidable (_ ∧ _ ∧ _ ∧ _))
  | .zero _ | .infinity _ | .notANumber => isFalse id

variable {top : Int} {x : UnpackedFloat} {bits : BitVec Format.binary64.numBits}

theorem Below.exponentAtMost (below : Below top x) : ExponentAtMost top x := by
  cases x with
  | finite => exact below.2
  | _ => exact below

theorem Below.isFinite (below : Below top x) : x.isFinite = true := by
  cases x <;> first | rfl | cases below

theorem Normal.below {bottom : Int} (normal : Normal bottom top x) : Below top x := by
  cases x with
  | finite => exact ⟨normal.2.1, normal.2.2.2⟩
  | _ => cases normal

/-- Bits whose exponent is not reserved stand for a number that this exponent bounds. -/
theorem below_unpack (low : -1074 ≤ top) (ordinary : unpackExponent bits ≠ -1#_)
    (bound : (unpackExponent bits).toNat ≤ top + 1075) : Below top (unpack Format.binary64 bits) := by
  unfold UnpackedFloat.unpack
  rw [if_neg ordinary]
  split_ifs with subnormal zero
  · trivial
  · refine ⟨(unpackMantissa bits).isLt.trans (by decide), ?_⟩
    rw [subnormal]
    exact low
  · refine ⟨(1#1 ++ unpackMantissa bits).isLt, ?_⟩
    change (unpackExponent bits).toNat - ((1023 + 52 : Nat) : Int) ≤ top
    omega

/-- Every finite double has an exponent of at most 971. -/
theorem below_of_isFinite (finite : (unpack Format.binary64 bits).isFinite = true) :
    Below 971 (unpack Format.binary64 bits) := by
  have ordinary : unpackExponent bits ≠ -1#_ := by
    intro special
    unfold UnpackedFloat.unpack at finite
    rw [if_pos special] at finite
    split_ifs at finite <;> cases finite
  refine below_unpack (by decide) ordinary ?_
  have bounded : (unpackExponent bits).toNat < 2048 := (unpackExponent bits).isLt
  have notLast : (unpackExponent bits).toNat ≠ 2047 := fun same =>
    ordinary (BitVec.eq_of_toNat_eq same)
  omega

/-- When the exponent of a number is too large to be stored. -/
theorem outgrown_iff (exponent : Int) : 2 ^ Format.binary64.exponentBits ≤ (exponent +
    Format.binary64.exponentBias + Format.binary64.mantissaBitsWithoutImplicit).toNat + 1 ↔
      971 < exponent := by
  change 2048 ≤ (exponent + 1023 + 52).toNat + 1 ↔ _
  omega

/-- A number whose exponent is not too large is bounded in the same way when it is stored. -/
theorem below_stored (low : -1074 ≤ top) (high : top ≤ 971) (small : ExponentAtMost top x) :
    Below top (unpack Format.binary64 (pack Format.binary64 x)) := by
  match x, small with
  | .zero sign, _ => simp [UnpackedFloat.pack, Below]
  | .finite sign mantissa exponent positive, small =>
    change exponent ≤ top at small
    have kept : (BitVec.ofNat 11 (exponent + 1023 + 52).toNat).toNat = (exponent + 1023 + 52).toNat :=
      Nat.mod_eq_of_lt (by omega)
    have ordinary : BitVec.ofNat 11 (exponent + 1023 + 52).toNat ≠ -1#11 := by
      intro same
      have largest : (exponent + 1023 + 52).toNat = 2047 := kept.symm.trans (congrArg BitVec.toNat same)
      omega
    unfold UnpackedFloat.pack
    rw [if_neg ((outgrown_iff exponent).not.mpr (by omega))]
    split_ifs with normal
    · refine below_unpack low ?_ ?_ <;> rw [unpackExponent_packComponents]
      · exact ordinary
      · refine (Int.ofNat_le.mpr kept.le).trans ?_
        omega
    · refine below_unpack low ?_ ?_ <;> rw [unpackExponent_packComponents]
      · decide
      · change 0 ≤ top + 1075
        omega

/-- A number is stored as a finite double exactly if its exponent is at most 971. -/
theorem isFinite_stored_iff :
    (unpack Format.binary64 (pack Format.binary64 x)).isFinite = true ↔ ExponentAtMost 971 x := by
  refine ⟨fun finite => ?_, fun small => (below_stored (by decide) le_rfl small).isFinite⟩
  match x with
  | .zero _ => trivial
  | .notANumber => simp [UnpackedFloat.pack, UnpackedFloat.isFinite] at finite
  | .infinity _ =>
    simp [UnpackedFloat.pack, packedInfinity, UnpackedFloat.unpack, UnpackedFloat.isFinite] at finite
  | .finite _ _ exponent _ =>
    by_contra large
    change ¬exponent ≤ 971 at large
    unfold UnpackedFloat.pack at finite
    rw [if_pos ((outgrown_iff exponent).mpr (by omega))] at finite
    simp [packedInfinity, UnpackedFloat.unpack, UnpackedFloat.isFinite] at finite

/-- A double is finite exactly if its exponent is at most 971. -/
theorem exponentAtMost_toModel_iff {x : Float} :
    ExponentAtMost 971 x.toModel.unpack ↔ x.isFinite = true := by
  refine ⟨fun small => ?_, fun finite => (below_of_isFinite finite).exponentAtMost⟩
  change x.toModel.unpack.isFinite = true
  generalize x.toModel.unpack = number at small
  cases number <;> first | rfl | cases small

end Storing

section Rounding

@[simp] theorem mantissa_shiftRight (held : ExtendedMantissa) (shift : Nat) :
    (held >>> shift).mantissa = held.mantissa / 2 ^ shift := by
  induction shift with
  | zero => exact (Nat.div_one _).symm
  | succ shift ih =>
    change (held >>> shift).mantissa / 2 = _
    rw [ih, Nat.div_div_eq_div_mul, pow_succ]

/-- The round bit after a shift is the bit that was shifted out last. -/
theorem roundBit_shiftRight (held : ExtendedMantissa) (shift : Nat) :
    (held >>> (shift + 1)).roundBit = (held.mantissa / 2 ^ shift % 2 != 0) := by
  rw [← mantissa_shiftRight]
  rfl

@[simp] theorem mantissa_ofMantissaAndAccuracy (mantissa : Nat) (accuracy : Accuracy) :
    (ExtendedMantissa.ofMantissaAndAccuracy mantissa accuracy).mantissa = mantissa := by
  rcases accuracy with _ | _ | _ | _ <;> rfl

/-- Rounding goes up by one at most. -/
theorem roundedMantissa_bounds (held : ExtendedMantissa) :
    held.mantissa ≤ held.roundedMantissa ∧ held.roundedMantissa ≤ held.mantissa + 1 := by
  obtain ⟨mantissa, _ | _, _ | _⟩ := held <;>
    simp only [ExtendedMantissa.roundedMantissa, ExtendedMantissa.accuracy,
      Accuracy.roundToNearestEven] <;>
    omega

/-- From an odd mantissa rounding goes up exactly if the round bit is set, and so it does in a tie. -/
theorem roundedMantissa_of_odd (held : ExtendedMantissa) (odd : held.mantissa % 2 = 1) :
    held.roundedMantissa = if held.roundBit then held.mantissa + 1 else held.mantissa := by
  obtain ⟨mantissa, _ | _, _ | _⟩ := held <;>
    simp_all [ExtendedMantissa.roundedMantissa, ExtendedMantissa.accuracy,
      Accuracy.roundToNearestEven]

theorem log2_le_of_lt {mantissa width : Nat} (small : mantissa < 2 ^ (width + 1)) :
    mantissa.log2 ≤ width := by
  rcases Nat.eq_zero_or_pos mantissa with rfl | positive
  · simp
  · exact Nat.le_of_lt_succ ((Nat.log2_lt positive.ne').mpr small)

theorem log2_shiftLeft_le (mantissa shift : Nat) :
    (mantissa <<< shift).log2 ≤ mantissa.log2 + shift := by
  refine log2_le_of_lt ?_
  rw [Nat.shiftLeft_eq, Nat.add_right_comm, pow_add]
  exact Nat.mul_lt_mul_of_pos_right Nat.lt_log2_self (Nat.two_pow_pos shift)

theorem targetExponent_eq (mantissa : Nat) (exponent : Int) :
    Format.binary64.targetExponent (totalExponent mantissa exponent) =
      max (mantissa.log2 + 1 + exponent - 53) (-1074) := rfl

/-- By how much a mantissa is shifted before it is rounded. -/
def firstShift (mantissa : Nat) (exponent : Int) : Nat :=
  (max (mantissa.log2 + 1 + exponent - 53) (-1074) - exponent).toNat

/-- The mantissa after this shift, rounded. -/
def rounded (mantissa : Nat) (exponent : Int) (accuracy : Accuracy) : Nat :=
  (ExtendedMantissa.ofMantissaAndAccuracy mantissa accuracy >>>
    firstShift mantissa exponent).roundedMantissa

variable (sign : Sign) (mantissa k : Nat) (exponent : Int) (accuracy : Accuracy)

/-- The shift leaves at most 53 bits. -/
theorem shifted_lt : mantissa / 2 ^ firstShift mantissa exponent < 2 ^ 53 := by
  have enough : mantissa.log2 + 1 ≤ 53 + firstShift mantissa exponent := by
    unfold firstShift
    omega
  rw [Nat.div_lt_iff_lt_mul (Nat.two_pow_pos _), ← pow_add]
  exact Nat.lt_log2_self.trans_le (Nat.pow_le_pow_right (by decide) enough)

theorem rounded_bounds :
    mantissa / 2 ^ firstShift mantissa exponent ≤ rounded mantissa exponent accuracy ∧
      rounded mantissa exponent accuracy ≤ mantissa / 2 ^ firstShift mantissa exponent + 1 := by
  have bounds := roundedMantissa_bounds (ExtendedMantissa.ofMantissaAndAccuracy mantissa accuracy >>>
    firstShift mantissa exponent)
  rwa [mantissa_shiftRight, mantissa_ofMantissaAndAccuracy] at bounds

/-- Rounding needs at most one bit more, and then the mantissa is a power of two. -/
theorem rounded_le : rounded mantissa exponent accuracy ≤ 2 ^ 53 :=
  (rounded_bounds mantissa exponent accuracy).2.trans (shifted_lt mantissa exponent)

/-- The second shift leaves a mantissa that fits as it is, and halves one that carried. -/
theorem secondShift {mantissa : Nat} {exponent : Int} (fits : mantissa ≤ 2 ^ 53)
    (low : -1074 ≤ exponent) : shiftToTargetExponent Format.binary64 mantissa exponent .exact =
      if mantissa < 2 ^ 53 then (⟨mantissa, false, false⟩, exponent)
      else (⟨2 ^ 52, false, false⟩, exponent + 1) := by
  unfold shiftToTargetExponent
  rw [targetExponent_eq, shiftToExponent]
  split_ifs with small
  · have narrow : mantissa.log2 ≤ 52 := log2_le_of_lt small
    have still : (max (mantissa.log2 + 1 + exponent - 53) (-1074) - exponent).toNat = 0 := by omega
    rw [still]
    simp [HShiftRight.hShiftRight, Nat.repeat, ExtendedMantissa.ofMantissaAndAccuracy]
  · obtain rfl : mantissa = 2 ^ 53 := by omega
    have once : (max (((2 ^ 53 : Nat).log2 : Int) + 1 + exponent - 53) (-1074) - exponent).toNat = 1 := by
      rw [Nat.log2_two_pow]
      omega
    rw [once]
    rfl

/-- The exponent after rounding is the one after the first shift, or the next one if rounding carried. -/
theorem exponentAtMost_round_iff {top : Int} :
    ExponentAtMost top (roundWithAccuracy Format.binary64 sign mantissa exponent accuracy) ↔
      rounded mantissa exponent accuracy = 0 ∨
      exponent + firstShift mantissa exponent +
        (if rounded mantissa exponent accuracy < 2 ^ 53 then 0 else 1) ≤ top := by
  have low : -1074 ≤ exponent + firstShift mantissa exponent := by
    unfold firstShift
    omega
  have first : shiftToTargetExponent Format.binary64 mantissa exponent accuracy =
      (ExtendedMantissa.ofMantissaAndAccuracy mantissa accuracy >>> firstShift mantissa exponent,
        exponent + firstShift mantissa exponent) := rfl
  have fits := rounded_le mantissa exponent accuracy
  unfold roundWithAccuracy
  unfold rounded at *
  generalize (ExtendedMantissa.ofMantissaAndAccuracy mantissa accuracy >>>
    firstShift mantissa exponent) = held at *
  simp only [first, secondShift fits low]
  rcases eq_or_ne held.roundedMantissa 0 with zero | nonzero
  · simp [zero, ExponentAtMost]
  · by_cases small : held.roundedMantissa < 2 ^ 53
    · simp only [if_pos small, nonzero, ↓reduceDIte, false_or, add_zero, ExponentAtMost]
    · simp only [if_neg small, nonzero, false_or]
      rfl

/-- With the largest exponent there is room unless all 53 bits and the round bit are set. -/
theorem rounded_lt_iff (wide : mantissa.log2 = k + 53) :
    rounded mantissa (970 - k) accuracy < 2 ^ 53 ↔ mantissa < (2 ^ 54 - 1) * 2 ^ k := by
  have shift : firstShift mantissa (970 - k) = k + 1 := by
    unfold firstShift
    omega
  have room := shifted_lt mantissa (970 - k)
  have upTo := rounded_bounds mantissa (970 - k) accuracy
  have carry := roundedMantissa_of_odd
    (ExtendedMantissa.ofMantissaAndAccuracy mantissa accuracy >>> firstShift mantissa (970 - k))
  rw [← rounded, mantissa_shiftRight, mantissa_ofMantissaAndAccuracy, shift, roundBit_shiftRight,
    mantissa_ofMantissaAndAccuracy] at carry
  rw [shift, pow_succ, ← Nat.div_div_eq_div_mul] at room upTo
  rw [pow_succ, ← Nat.div_div_eq_div_mul] at carry
  rw [← Nat.div_lt_iff_lt_mul (Nat.two_pow_pos k)]
  -- `halves` has the 53 bits that are kept and the round bit, all set exactly if it is `2 ^ 54 - 1`.
  generalize mantissa / 2 ^ k = halves at *
  rcases Nat.lt_or_ge (halves / 2) (2 ^ 53 - 1) with below | full
  · exact iff_of_true (by omega) (by omega)
  · rw [carry (by omega)]
    rcases Nat.mod_two_eq_zero_or_one halves with even | odd
    · rw [even]
      exact iff_of_true room (by omega)
    · rw [odd]
      exact iff_of_false (by simp only [Nat.reduceBNe, if_true]; omega) (by omega)

/-- After rounding a number fits exactly if it is below `(2 ^ 54 - 1) * 2 ^ 970`, here in steps of its own
exponent. -/
theorem fits_round_iff :
    ExponentAtMost 971 (roundWithAccuracy Format.binary64 sign mantissa (970 - k) accuracy) ↔
      mantissa < (2 ^ 54 - 1) * 2 ^ k := by
  rw [exponentAtMost_round_iff]
  rcases lt_trichotomy mantissa.log2 (k + 53) with narrow | wide | wider
  · have small : mantissa < 2 ^ 53 * 2 ^ k := by
      rw [← pow_add]
      exact Nat.lt_log2_self.trans_le (Nat.pow_le_pow_right (by decide) (by omega))
    have ends : (970 - k : Int) + firstShift mantissa (970 - k) ≤ 970 := by
      unfold firstShift
      omega
    refine iff_of_true (.inr ?_) (by omega)
    split_ifs <;> omega
  · have ends : (970 - k : Int) + firstShift mantissa (970 - k) = 971 := by
      unfold firstShift
      omega
    rw [← rounded_lt_iff mantissa k accuracy wide, ends]
    split_ifs with room
    · exact iff_of_true (.inr le_rfl) room
    · exact iff_of_false (by omega) room
  · have positive : mantissa ≠ 0 := by
      rintro rfl
      simp at wider
    have large : 2 ^ 54 * 2 ^ k ≤ mantissa := by
      rw [← pow_add, add_comm]
      exact (Nat.le_log2 positive).mp wider
    have shift : firstShift mantissa (970 - k) = mantissa.log2 - 52 := by
      unfold firstShift
      omega
    have leading : 2 ^ 52 ≤ mantissa / 2 ^ firstShift mantissa (970 - k) := by
      rw [shift, Nat.le_div_iff_mul_le (Nat.two_pow_pos _), ← pow_add,
        show 52 + (mantissa.log2 - 52) = mantissa.log2 by omega]
      exact Nat.log2_self_le positive
    have upTo := (rounded_bounds mantissa (970 - k) accuracy).1
    refine iff_of_false ?_ (by omega)
    rw [not_or]
    exact ⟨by omega, by split_ifs <;> omega⟩

end Rounding

section Arithmetic

variable {x y : UnpackedFloat}

/-- An exponent that leaves room is so many steps below 970. -/
theorem exists_step {exponent : Int} (room : exponent ≤ 970) : ∃ k : Nat, exponent = 970 - k :=
  ⟨(970 - exponent).toNat, by omega⟩

/-- A product fits according to the whole numbers that are multiplied. -/
theorem fits_mul_iff {sign sign' : Sign} {m m' k : Nat} {e e' : Int} {positive : 0 < m}
    {positive' : 0 < m'} (exponent : e + e' = 970 - k) :
    ExponentAtMost 971 (UnpackedFloat.mul Format.binary64 (.finite sign m e positive)
      (.finite sign' m' e' positive')) ↔ m * m' < (2 ^ 54 - 1) * 2 ^ k := by
  rw [UnpackedFloat.mul, exponent, fits_round_iff]

/-- A product of two numbers fits if their exponents together are not too large. -/
theorem fits_mul {first second : Int} (left : Below first x) (right : Below second y)
    (small : first + second ≤ 900) :
    ExponentAtMost 971 (UnpackedFloat.mul Format.binary64 x y) := by
  match x, y, left, right with
  | .zero _, .zero _, _, _ => trivial
  | .zero _, .finite .., _, _ => trivial
  | .finite .., .zero _, _, _ => trivial
  | .finite _ m e _, .finite _ m' e' _, ⟨leftFits, leftSmall⟩, ⟨rightFits, rightSmall⟩ =>
    obtain ⟨k, exponent⟩ : ∃ k : Nat, e + e' = 970 - k := exists_step (by omega)
    rw [fits_mul_iff exponent]
    have product : m * m' < 2 ^ 53 * 2 ^ 53 := Nat.mul_lt_mul'' leftFits rightFits
    have power : 2 ^ 70 ≤ 2 ^ k := Nat.pow_le_pow_right (by decide) (by omega)
    omega

/-- The quotient is computed with an exponent of `970 - k`, for which the dividend is shifted. Whether it
fits depends on the dividend and the divisor as whole numbers. -/
theorem fits_div_iff {sign sign' : Sign} {m m' k : Nat} {e e' : Int} {positive : 0 < m}
    {positive' : 0 < m'} (exponent : min (e - e')
      (Format.binary64.targetExponent (totalExponent m e - totalExponent m' e')) = 970 - k) :
    ExponentAtMost 971 (UnpackedFloat.div Format.binary64 (.finite sign m e positive)
      (.finite sign' m' e' positive')) ↔
      m * 2 ^ (e - e' - (970 - k)).toNat < (2 ^ 54 - 1) * 2 ^ k * m' := by
  rw [UnpackedFloat.div]
  simp only [divCore, exponent, fits_round_iff]
  rw [Nat.div_lt_iff_lt_mul positive', Nat.shiftLeft_eq]

/-- A quotient by a number of 53 bits fits if the exponents are not too far apart. -/
theorem fits_div {top bottom top' : Int} (left : Below top x) (right : Normal bottom top' y)
    (apart : top - bottom ≤ 1020) :
    ExponentAtMost 971 (UnpackedFloat.div Format.binary64 x y) := by
  match x, y, left, right with
  | .zero _, .finite .., _, _ => trivial
  | .finite _ m e _, .finite _ m' e' positive, ⟨leftFits, leftSmall⟩, ⟨normal, fits, rightLarge, _⟩ =>
    have narrow : m.log2 ≤ 52 := log2_le_of_lt leftFits
    have wide : m'.log2 = 52 := (Nat.log2_eq_iff positive.ne').mpr ⟨normal, fits⟩
    have target : Format.binary64.targetExponent (totalExponent m e - totalExponent m' e') ≤ 970 := by
      simp only [Format.targetExponent, totalExponent, wide, Format.mantissaBits, Format.minExponent]
      omega
    obtain ⟨k, exponent⟩ := exists_step ((min_le_right (e - e') _).trans target)
    rw [fits_div_iff exponent]
    have shift : (e - e' - (970 - k)).toNat ≤ k + 50 := by omega
    calc m * 2 ^ (e - e' - (970 - k)).toNat
      _ < 2 ^ 53 * 2 ^ (e - e' - (970 - k)).toNat :=
        Nat.mul_lt_mul_of_pos_right leftFits (Nat.two_pow_pos _)
      _ ≤ 2 ^ 53 * 2 ^ (k + 50) := Nat.mul_le_mul_left _ (Nat.pow_le_pow_right (by decide) shift)
      _ = 2 ^ 51 * 2 ^ k * 2 ^ 52 := by rw [pow_add]; ring
      _ ≤ (2 ^ 54 - 1) * 2 ^ k * m' := Nat.mul_le_mul (Nat.mul_le_mul_right _ (by decide)) normal

end Arithmetic

section Range

/-- The first whole number that is too large for a double. -/
def limit : Nat := (2 ^ 54 - 1) * 2 ^ 970

/-- Whether `m * 10 ^ e` is below the limit, in whole numbers. -/
def InRange (m : Nat) (e : Int) : Prop := m * 10 ^ e.toNat < limit * 10 ^ (-e).toNat

theorem steps_pos (k : Nat) : 0 < (2 ^ 54 - 1) * 2 ^ k := Nat.mul_pos (by decide) (Nat.two_pow_pos k)

theorem limit_pos : 0 < limit := steps_pos 970

theorem cast_steps (k : Nat) : (((2 ^ 54 - 1) * 2 ^ k : ℕ) : ℚ) = 2 ^ (54 + k) - 2 ^ k := by
  rw [Nat.cast_mul, Nat.cast_sub (by decide), sub_mul, pow_add]
  push_cast
  ring

theorem steps_le_ten_pow {k power : Nat} (large : 54 + k ≤ 3 * power) :
    (2 ^ 54 - 1) * 2 ^ k ≤ 10 ^ power :=
  calc (2 ^ 54 - 1) * 2 ^ k
    _ ≤ 2 ^ 54 * 2 ^ k := Nat.mul_le_mul_right _ (by decide)
    _ = 2 ^ (54 + k) := (pow_add 2 54 k).symm
    _ ≤ 2 ^ (3 * power) := Nat.pow_le_pow_right (by decide) large
    _ = (2 ^ 3) ^ power := pow_mul 2 3 power
    _ ≤ 10 ^ power := Nat.pow_le_pow_left (by decide) power

theorem limit_le_ten_pow {power : Nat} (large : 342 ≤ power) : limit ≤ 10 ^ power :=
  steps_le_ten_pow (by omega)

variable {m : Nat} {e : Int} (width : Nat)

theorem inRange_zero (e : Int) : InRange 0 e := by
  unfold InRange
  rw [zero_mul]
  exact Nat.mul_pos limit_pos (Nat.pow_pos (by decide))

/-- A decimal without digits before the point is in range. -/
theorem inRange_of_lt (fits : m < 10 ^ width) (small : e + width ≤ 0) : InRange m e := by
  unfold InRange
  rw [show e.toNat = 0 by omega, pow_zero, mul_one]
  calc m
    _ < 10 ^ width := fits
    _ ≤ 10 ^ (-e).toNat := Nat.pow_le_pow_right (by decide) (by omega)
    _ ≤ limit * 10 ^ (-e).toNat := Nat.le_mul_of_pos_left _ limit_pos

/-- A decimal with very many digits before the point is not. -/
theorem not_inRange_of_le (fits : 10 ^ width ≤ m) (large : 342 ≤ e + width) : ¬InRange m e := by
  unfold InRange
  rw [not_lt]
  obtain ⟨power, raised⟩ : ∃ power : Nat, e + width = power := ⟨(e + width).toNat, by omega⟩
  calc limit * 10 ^ (-e).toNat
    _ ≤ 10 ^ power * 10 ^ (-e).toNat := Nat.mul_le_mul_right _ (limit_le_ten_pow (by omega))
    _ = 10 ^ width * 10 ^ e.toNat := by rw [← pow_add, ← pow_add]; congr 1; omega
    _ ≤ m * 10 ^ e.toNat := Nat.mul_le_mul_right _ fits

/-- A decimal of few digits with a small exponent is far below the limit. -/
theorem inRange_of_exact (fits : m < 2 ^ 53) (small : e ≤ 22) : InRange m e := by
  have far {k : Nat} (large : 74 ≤ k) : (2 ^ 54 - 1) * 2 ^ 74 ≤ (2 ^ 54 - 1) * 2 ^ k :=
    Nat.mul_le_mul_left _ (Nat.pow_le_pow_right (by decide) large)
  calc m * 10 ^ e.toNat
    _ < 2 ^ 53 * 10 ^ e.toNat := Nat.mul_lt_mul_of_pos_right fits (Nat.pow_pos (by decide))
    _ ≤ 2 ^ 53 * 10 ^ 22 := Nat.mul_le_mul_left _ (Nat.pow_le_pow_right (by decide) (by omega))
    _ ≤ (2 ^ 54 - 1) * 2 ^ 74 := by decide
    _ ≤ limit := far (by decide)
    _ ≤ limit * 10 ^ (-e).toNat := Nat.le_mul_of_pos_right _ (Nat.pow_pos (by decide))

/-- A power of ten is a factor, or it is a divisor. Powers far out are settled without being computed. -/
theorem fits_ofScientific_iff (m : Nat) (e : Int) :
    ExponentAtMost 971 (UnpackedFloat.ofScientific Format.binary64 m e) ↔ InRange m e := by
  unfold UnpackedFloat.ofScientific
  split_ifs with zero large small whole
  · subst zero
    exact iff_of_true trivial (inRange_zero e)
  · change 2048 < e at large
    refine iff_of_false id (not_inRange_of_le 0 ?_ (by omega))
    rw [pow_zero]
    exact Nat.pos_of_ne_zero zero
  · change e < -(2048 + m.log2) at small
    refine iff_of_true trivial (inRange_of_lt (m.log2 + 1) ?_ (by omega))
    exact Nat.lt_log2_self.trans_le (Nat.pow_le_pow_left (by decide) _)
  · rw [fits_mul_iff (k := 970 + Format.binary64.mantissaBits) (by decide), InRange,
      show (-e).toNat = 0 by omega, pow_zero, mul_one, Nat.shiftLeft_eq, pow_add, ← mul_assoc,
      mul_right_comm, Nat.mul_lt_mul_right (Nat.two_pow_pos Format.binary64.mantissaBits), ← limit]
  · obtain ⟨steps, exponent⟩ := exists_step ((min_le_left (0 - 0 : Int) (Format.binary64.targetExponent
      (totalExponent m 0 - totalExponent (10 ^ (-e).toNat) 0))).trans (by decide))
    obtain ⟨shift, rfl⟩ : ∃ shift, steps = 970 + shift := ⟨steps - 970, by omega⟩
    have shifted : ((0 : Int) - 0 - (970 - (970 + shift : Nat))).toNat = shift := by omega
    rw [fits_div_iff exponent, shifted, InRange, show e.toNat = 0 by omega, pow_zero, mul_one, pow_add,
      ← mul_assoc, mul_right_comm _ (2 ^ shift), Nat.mul_lt_mul_right (Nat.two_pow_pos shift), ← limit]

/-- A whole number of at most 53 bits is exact as a double, with a small exponent. -/
theorem below_toFloat {word : UInt64} (fits : word.toNat < 2 ^ 53) :
    Below 1 word.toFloat.toModel.unpack := by
  refine below_stored (by decide) (by decide) ?_
  unfold ofUInt64 ofNat ofInt UnpackedFloat.normalize
  rcases Nat.eq_zero_or_pos word.toNat with zero | positive
  · rw [zero]
    trivial
  · have above : compare (word.toNat : Int) 0 = .gt := Int.compare_eq_gt.mpr (by omega)
    rw [above]
    have narrow : word.toNat.log2 ≤ 52 := log2_le_of_lt fits
    have shift := log2_shiftLeft_le word.toNat (0 - Format.binary64.targetExponent
      (totalExponent word.toNat 0)).toNat
    refine (exponentAtMost_round_iff ..).mpr (.inr ?_)
    rw [targetExponent_eq] at *
    rw [Int.toNat_natCast] at *
    unfold firstShift
    split_ifs <;> omega

/-- The powers of ten that are doubles have all 53 bits. -/
theorem normal_powersOfTen : ∀ power (held : power < Float.exactlyRepresentablePowersOfTen.size),
    Normal (-52) 21 (Float.exactlyRepresentablePowersOfTen[power]).toModel.unpack := by
  decide

/-- Short decimals with a small exponent are two exact doubles, multiplied or divided; all others are
rounded once. -/
theorem isFinite_ofScientific_iff (m : Nat) (e : Int) :
    (Float.ofScientific m (decide (e < 0)) e.natAbs).isFinite = true ↔ InRange m e := by
  by_cases exact : m < 2 ^ 53 ∧ e.natAbs ≤ 22
  · rw [Float.ofScientific, dif_pos exact]
    obtain ⟨fits, small⟩ := exact
    have word : m.toUInt64.toNat = m := Nat.mod_eq_of_lt (by omega)
    have digits : Below 1 m.toUInt64.toFloat.toModel.unpack := below_toFloat (by rwa [word])
    have power := normal_powersOfTen e.natAbs (Nat.lt_succ_of_le small)
    refine iff_of_true ?_ (inRange_of_exact fits (by omega))
    split_ifs
    · exact isFinite_stored_iff.mpr (fits_div digits power (by decide))
    · exact isFinite_stored_iff.mpr (fits_mul digits power.below (by decide))
  · have signed : (if decide (e < 0) then Int.negOfNat e.natAbs else Int.ofNat e.natAbs) = e := by
      rw [Int.negOfNat_eq, Int.ofNat_eq_natCast]
      split_ifs with negative <;> simp at negative <;> omega
    rw [Float.ofScientific, dif_neg exact]
    simp only [signed]
    exact isFinite_stored_iff.trans (fits_ofScientific_iff m e)

/-- The range in terms of the number that a decimal denotes. -/
theorem inRange_iff (m : Nat) (e : Int) : InRange m e ↔ (m : ℚ) * 10 ^ e < 2 ^ 1024 - 2 ^ 970 := by
  have bound : (limit : ℚ) = 2 ^ 1024 - 2 ^ 970 := cast_steps 970
  have parts : (10 : ℚ) ^ e * 10 ^ (-e).toNat = 10 ^ e.toNat := by
    rw [← zpow_natCast, ← zpow_natCast, ← zpow_add₀ (by norm_num)]
    congr 1
    omega
  have positive : (0 : ℚ) < 10 ^ (-e).toNat := by positivity
  rw [← bound, ← mul_lt_mul_iff_left₀ positive, mul_assoc, parts, InRange]
  norm_cast

end Range

section Operations

/-- A double keeps being finite, or not, when its sign changes. -/
theorem isFinite_neg (x : Float) : (-x).isFinite = x.isFinite := by
  rw [Bool.eq_iff_iff, ← exponentAtMost_toModel_iff (x := x)]
  refine isFinite_stored_iff.trans ?_
  cases x.toModel.unpack <;> rfl

/-- A double keeps being finite, or not, when it is divided by one that is not too small. -/
theorem isFinite_div (x : Float) {y : Float} {top : Int} (normal : Normal (-49) top y.toModel.unpack) :
    (x / y).isFinite = x.isFinite := by
  rcases Bool.eq_false_or_eq_true x.isFinite with finite | infinite
  · rw [finite]
    exact isFinite_stored_iff.mpr (fits_div (below_of_isFinite finite) normal (by decide))
  · rw [infinite, ← Bool.not_eq_true]
    refine mt isFinite_stored_iff.mp ?_
    change x.toModel.unpack.isFinite = false at infinite
    generalize x.toModel.unpack = dividend, y.toModel.unpack = divisor at *
    match dividend, divisor, infinite, normal with
    | .infinity _, .finite .., _, _ => exact id
    | .notANumber, .finite .., _, _ => exact id

end Operations

end Double

namespace Decimal

/-- The number that a decimal denotes. -/
def value (d : Decimal) : ℚ := d.digits * 10 ^ d.exponent

theorem lt_pow_width (d : Decimal) : d.digits < 10 ^ d.width :=
  (Nat.length_toDigits_le_iff (by decide) Nat.length_toDigits_pos).mp le_rfl

theorem pow_width_le (d : Decimal) (nonzero : d.digits ≠ 0) : 10 ^ (d.width - 1) ≤ d.digits := by
  by_contra short
  rw [Nat.not_le] at short
  rcases Nat.eq_zero_or_pos (d.width - 1) with single | several
  · rw [single, pow_zero] at short
    omega
  · have narrow : d.width ≤ d.width - 1 := (Nat.length_toDigits_le_iff (by decide) several).mpr short
    omega

/-- A decimal is read as a finite double exactly below the number half way between the largest double and
`2 ^ 1024`. -/
theorem isFinite_toFloat_iff (d : Decimal) :
    d.toFloat.isFinite = true ↔ d.value < 2 ^ 1024 - 2 ^ 970 := by
  rw [value, ← Double.inRange_iff]
  simp only [toFloat]
  split_ifs with small large
  · refine iff_of_true (by decide) ?_
    rcases small with zero | small
    · rw [zero]
      exact Double.inRange_zero d.exponent
    · exact Double.inRange_of_lt d.width d.lt_pow_width (by omega)
  · have leading := d.pow_width_le fun zero => small (.inl zero)
    exact iff_of_false (by decide) (Double.not_inRange_of_le (d.width - 1) leading (by omega))
  · exact Double.isFinite_ofScientific_iff d.digits d.exponent

end Decimal

end ParamFilter
