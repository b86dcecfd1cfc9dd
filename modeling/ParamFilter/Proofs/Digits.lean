import Mathlib
import ParamFilter.Operand
import ParamFilter.Text.Integer

/-!
# Numbers in decimal digits

What the digits of a number give back when they are read. A number's own digits denote it, zeros in
front do not change it, and a fixed width leaves it readable from the end of a text. The readers of
signs, blanks and operands have nothing to take from a run of digits, because a digit is none of the
marks that they look for.

Only ASCII digits in base ten are meant. What a reader makes of other text is not said here.
-/

namespace ParamFilter.Text

/-- The ten digits follow each other. -/
theorem isDigit_iff {c : Char} : c.isDigit = true ↔ 48 ≤ c.toNat ∧ c.toNat ≤ 57 := by
  simp [Char.isDigit, UInt32.le_iff_toNat_le]

/-- A digit is none of the marks that operands are read by. There are ten of them to look at. -/
theorem plain_of_isDigit {c : Char} (digit : c.isDigit = true) :
    isBlank c = false ∧ c ≠ '-' ∧ c ≠ '+' ∧ c ≠ ',' ∧ c ≠ '\n' ∧ Operand.isBrace c = false := by
  obtain ⟨low, high⟩ := isDigit_iff.mp digit
  have plain : ∀ n < 58, 48 ≤ n → isBlank (Char.ofNat n) = false ∧ Char.ofNat n ≠ '-' ∧
      Char.ofNat n ≠ '+' ∧ Char.ofNat n ≠ ',' ∧ Char.ofNat n ≠ '\n' ∧
      Operand.isBrace (Char.ofNat n) = false := by decide
  have itself := plain c.toNat (by omega) low
  rwa [Char.ofNat_toNat] at itself

/-- A digit is no letter. -/
theorem isAlpha_of_isDigit {c : Char} (digit : c.isDigit = true) : c.isAlpha = false := by
  obtain ⟨low, high⟩ := isDigit_iff.mp digit
  have noUpper : ¬65 ≤ c.toNat := by omega
  have noLower : ¬97 ≤ c.toNat := by omega
  simp [Char.isAlpha, Char.isUpper, Char.isLower, UInt32.le_iff_toNat_le, noUpper, noLower]

section Runs

variable {text : List Char}

/-- A run of digits has no sign. -/
theorem splitSign_of_isDigits (digits : isDigits text = true) : splitSign text = (false, text) := by
  obtain ⟨_, all⟩ := isDigits_iff.mp digits
  unfold splitSign
  split
  · exact absurd (all '-' List.mem_cons_self) (by decide)
  · exact absurd (all '+' List.mem_cons_self) (by decide)
  · rfl

/-- A run of digits has no blanks in front. -/
theorem trimStart_of_isDigits (digits : isDigits text = true) : trimStart text = text := by
  obtain ⟨filled, all⟩ := isDigits_iff.mp digits
  obtain ⟨c, rest, rfl⟩ := List.exists_cons_of_ne_nil filled
  have noBlank : isBlank c = false := (plain_of_isDigit (all c List.mem_cons_self)).1
  simp [trimStart, noBlank]

/-- A run of digits has no blanks around it. From the end it is a run of digits again. -/
theorem trim_of_isDigits (digits : isDigits text = true) : trim text = text := by
  have backwards : isDigits text.reverse = true := by simpa [isDigits] using digits
  have noBlank : text.reverse.dropWhile isBlank = text.reverse := trimStart_of_isDigits backwards
  rw [trim, trimStart_of_isDigits digits, trimEnd, noBlank, List.reverse_reverse]

/-- A run of digits ends where no digit follows. -/
theorem span_digits {digits : List Char} (rest : List Char) (all : ∀ c ∈ digits, c.isDigit = true)
    (ends : ∀ c ∈ rest.head?, c.isDigit = false) :
    (digits ++ rest).takeWhile Char.isDigit = digits ∧
      (digits ++ rest).dropWhile Char.isDigit = rest := by
  rw [List.takeWhile_append_of_pos all, List.dropWhile_append_of_pos all]
  cases rest with
  | nil => simp
  | cons c others =>
    have noDigit : ¬c.isDigit = true := by simp [ends c rfl]
    simp [noDigit]

end Runs

section Signs

/-- The ways to write a sign; none is one of them. -/
def signs : List (List Char) := [[], ['-'], ['+']]

/-- Every text is a sign, maybe none, and what is behind it. -/
theorem exists_sign (text : List Char) : ∃ sign ∈ signs,
    text = sign ++ (splitSign text).2 ∧ (splitSign text).1 = decide (sign = ['-']) := by
  unfold splitSign
  split
  · exact ⟨['-'], by simp [signs], rfl, rfl⟩
  · exact ⟨['+'], by simp [signs], rfl, rfl⟩
  · exact ⟨[], by simp [signs], rfl, rfl⟩

/-- A sign is split off from the digits behind it. -/
theorem splitSign_append {sign digits : List Char} (known : sign ∈ signs)
    (run : isDigits digits = true) (rest : List Char) :
    splitSign (sign ++ (digits ++ rest)) = (decide (sign = ['-']), digits ++ rest) := by
  simp only [signs, List.mem_cons, List.not_mem_nil, or_false] at known
  rcases known with rfl | rfl | rfl
  · obtain ⟨filled, all⟩ := isDigits_iff.mp run
    obtain ⟨c, others, rfl⟩ := List.exists_cons_of_ne_nil filled
    obtain ⟨_, noMinus, noPlus, _⟩ := plain_of_isDigit (all c List.mem_cons_self)
    simp only [List.nil_append, List.cons_append]
    unfold splitSign
    split
    · next eq => exact absurd (List.cons.inj eq).1 noMinus
    · next eq => exact absurd (List.cons.inj eq).1 noPlus
    · rfl
  · rfl
  · rfl

end Signs

/-- The digits of a number denote it. -/
theorem digitsValue_toDigits (n : Nat) : digitsValue (Nat.toDigits 10 n) = n :=
  Nat.ofDigitChars_toDigits (by decide) (by decide)

theorem isDigits_toDigits (n : Nat) : isDigits (Nat.toDigits 10 n) = true :=
  isDigits_iff.mpr ⟨Nat.toDigits_ne_nil, fun _ member =>
    Nat.isDigit_of_mem_toDigits (by decide) (by decide) member⟩

/-- Zeros in front do not count. -/
theorem digitsValue_replicate_append (zeros : Nat) (digits : List Char) :
    digitsValue (List.replicate zeros '0' ++ digits) = digitsValue digits := by
  induction zeros with
  | zero => rfl
  | succ zeros ih => exact ih

/-- Zeros are digits. -/
theorem isDigits_replicate_append (zeros : Nat) {digits : List Char} (run : isDigits digits = true) :
    isDigits (List.replicate zeros '0' ++ digits) = true := by
  obtain ⟨filled, all⟩ := isDigits_iff.mp run
  refine isDigits_iff.mpr ⟨by simp [filled], fun c member => ?_⟩
  rcases List.mem_append.mp member with zero | digit
  · rw [List.eq_of_mem_replicate zero]
    rfl
  · exact all c digit

/-- Padded digits denote the number that was padded. -/
theorem digitsValue_padded (width n : Nat) : digitsValue (padded width n) = n := by
  rw [padded, digitsValue_replicate_append, digitsValue_toDigits]

theorem padded_injective (width : Nat) : Function.Injective (padded width) := by
  intro n m same
  rw [← digitsValue_padded width n, same, digitsValue_padded]

theorem isDigits_padded (width n : Nat) : isDigits (padded width n) = true :=
  isDigits_replicate_append _ (isDigits_toDigits n)

/-- A padded number begins with a digit. -/
theorem exists_padded_eq_cons (width n : Nat) :
    ∃ c rest, padded width n = c :: rest ∧ c.isDigit = true := by
  obtain ⟨filled, digits⟩ := isDigits_iff.mp (isDigits_padded width n)
  obtain ⟨c, rest, same⟩ := List.exists_cons_of_ne_nil filled
  exact ⟨c, rest, same, digits c (same ▸ List.mem_cons_self)⟩

/-- A padded number has no blanks in front. -/
theorem trimStart_padded_append (width n : Nat) (rest : List Char) :
    trimStart (padded width n ++ rest) = padded width n ++ rest := by
  obtain ⟨c, more, same, digit⟩ := exists_padded_eq_cons width n
  have noBlank : isBlank c = false := (plain_of_isDigit digit).1
  rw [same, List.cons_append, trimStart, List.dropWhile_cons_of_neg (by simp [noBlank])]

/-- A number that fits its width is written in exactly this width. -/
theorem length_padded {width n : Nat} (wide : 0 < width) (fits : n < 10 ^ width) :
    (padded width n).length = width := by
  have narrow : (Nat.toDigits 10 n).length ≤ width :=
    (Nat.length_toDigits_le_iff (by decide) wide).mpr fits
  simp only [padded, List.length_append, List.length_replicate]
  omega

/-- The text of an integer is its digits, behind a minus sign where it is negative. -/
theorem toList_toString (n : Int) : (toString n).toList =
    if n < 0 then '-' :: Nat.toDigits 10 n.natAbs else Nat.toDigits 10 n.natAbs := by
  rw [Int.toString_eq_repr, Int.repr_eq_if]
  by_cases negative : n < 0
  · have magnitude : (-n).toNat = n.natAbs := by omega
    simp [negative, Int.not_le.mpr negative, magnitude, String.toList_append, Nat.toList_repr]
  · have magnitude : n.toNat = n.natAbs := by omega
    simp [negative, Int.not_lt.mp negative, magnitude, Nat.toList_repr]

/-- The digits of an integer behind its sign denote it, with zeros in front or without. -/
theorem signedValue_toDigits (zeros : Nat) (n : Int) : signedValue (decide (n < 0))
    (List.replicate zeros '0' ++ Nat.toDigits 10 n.natAbs) = n := by
  rw [signedValue, digitsValue_replicate_append, digitsValue_toDigits]
  split <;> simp only [decide_eq_true_eq] at * <;> omega

/-- The text of an integer is read as this integer, if a word can hold it. -/
theorem int?_toString (n : Int) : int? (toString n).toList = word64? n := by
  have digits := isDigits_toDigits n.natAbs
  have value := signedValue_toDigits 0 n
  rw [List.replicate_zero, List.nil_append] at value
  rw [toList_toString]
  by_cases negative : n < 0
  · rw [decide_eq_true negative] at value
    simp [int?, negative, splitSign, digits, value]
  · rw [decide_eq_false negative] at value
    simp [int?, negative, splitSign_of_isDigits digits, digits, value]

/-- A number of fixed width at the end of a text, and what stands before it, can be told apart. -/
theorem append_padded_inj {before before' : List Char} {mark : Char} {width n m : Nat}
    (wide : 0 < width) (fits : n < 10 ^ width) (fits' : m < 10 ^ width)
    (same : before ++ mark :: padded width n = before' ++ mark :: padded width m) :
    before = before' ∧ n = m := by
  have lengths : (mark :: padded width n).length = (mark :: padded width m).length := by
    rw [List.length_cons, List.length_cons, length_padded wide fits, length_padded wide fits']
  obtain ⟨front, back⟩ := List.append_inj' same lengths
  exact ⟨front, padded_injective width (List.cons.inj back).2⟩

end ParamFilter.Text
