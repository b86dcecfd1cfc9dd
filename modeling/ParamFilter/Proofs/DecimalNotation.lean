import Mathlib
import ParamFilter.Decimal.Reader
import ParamFilter.Proofs.Digits

/-!
# Decimal notation

How a decimal is spelled, without its sign. There is at least one digit, and a point may stand before the
digits, between them or behind them. A power of ten may follow behind a mark, with a sign of its own, and
then it has digits too. Nothing else is read as a decimal: no blanks, no other digits than the ten, and no
mark between groups of digits.

Decimals that denote the same number are not the same here, as `1.0` has one digit more than `1`.
-/

namespace ParamFilter.Decimal

/-- What may follow the digits: nothing, or a mark and a power of ten, with or without a sign. -/
inductive Scales : List Char → Int → Prop where
  | none : Scales [] 0
  | power {mark : Char} {sign digits : List Char} (letter : mark = 'e' ∨ mark = 'E')
      (known : sign ∈ Text.signs) (run : Text.isDigits digits = true) :
      Scales (mark :: (sign ++ digits)) (Text.signedValue (decide (sign = ['-'])) digits)

/-- The text spells the decimal: at least one digit, with a point before, between or behind the digits or
without one, and then maybe a power of ten. Each digit behind the point lowers the power by one. -/
inductive Spells : List Char → Decimal → Prop where
  | whole {digits rest : List Char} {power : Int} (run : Text.isDigits digits = true)
      (scaled : Scales rest power) : Spells (digits ++ rest) ⟨Text.digitsValue digits, power⟩
  | pointed {before behind rest : List Char} {power : Int}
      (run : Text.isDigits (before ++ behind) = true) (scaled : Scales rest power) :
      Spells (before ++ '.' :: (behind ++ rest))
        ⟨Text.digitsValue (before ++ behind), power - behind.length⟩

/-- A decimal begins with a digit or with a point, and not with a letter. -/
theorem Spells.exists_cons {text : List Char} {d : Decimal} (spelled : Spells text d) :
    ∃ c rest, text = c :: rest ∧ c.isAlpha = false := by
  cases spelled with
  | @whole digits rest power run =>
    obtain ⟨filled, all⟩ := Text.isDigits_iff.mp run
    obtain ⟨c, others, rfl⟩ := List.exists_cons_of_ne_nil filled
    exact ⟨c, _, rfl, Text.isAlpha_of_isDigit (all c List.mem_cons_self)⟩
  | @pointed before behind rest power run =>
    obtain ⟨_, all⟩ := Text.isDigits_iff.mp run
    cases before with
    | nil => exact ⟨'.', _, rfl, rfl⟩
    | cons c others => exact ⟨c, _, rfl, Text.isAlpha_of_isDigit (all c List.mem_cons_self)⟩

/-- The reader of powers takes exactly these. -/
theorem exponent?_eq_some_iff {text : List Char} {power : Int} :
    exponent? text = some power ↔ Scales text power := by
  constructor
  · intro read
    cases text with
    | nil =>
      cases read
      exact .none
    | cons mark text =>
      obtain ⟨sign, known, whole, negative⟩ := Text.exists_sign text
      simp only [exponent?] at read
      split_ifs at read with accepted
      rw [negative] at read
      cases read
      have scaled := Scales.power accepted.1 known accepted.2
      rwa [← whole] at scaled
  · rintro (_ | ⟨letter, known, run⟩)
    · rfl
    · have split := Text.splitSign_append known run []
      rw [List.append_nil] at split
      simp only [exponent?, split, run]
      simp [letter]

/-- What follows the digits goes on with neither a digit nor a point. -/
theorem Scales.head {text : List Char} {power : Int} (scaled : Scales text power) :
    ∀ c ∈ text.head?, c.isDigit = false ∧ c ≠ '.' := by
  cases scaled with
  | none => simp
  | power letter => rcases letter with rfl | rfl <;> simp

/-- The reader takes as many digits as there are, and this is how decimals are spelled. -/
theorem ofText?_eq_some_iff {text : List Char} {d : Decimal} : ofText? text = some d ↔ Spells text d := by
  constructor
  · intro read
    have whole : text.takeWhile Char.isDigit ++ text.dropWhile Char.isDigit = text :=
      List.takeWhile_append_dropWhile
    have front : ∀ c ∈ text.takeWhile Char.isDigit, c.isDigit = true := fun _ => List.mem_takeWhile_imp
    simp only [ofText?] at read
    generalize text.takeWhile Char.isDigit = before at *
    split at read
    · next tail pointed =>
      split_ifs at read with filled
      obtain ⟨power, scaled, rfl⟩ := Option.map_eq_some_iff.mp read
      have behind : ∀ c ∈ tail.takeWhile Char.isDigit, c.isDigit = true := fun _ => List.mem_takeWhile_imp
      rw [pointed, ← List.takeWhile_append_dropWhile (p := Char.isDigit) (l := tail)] at whole
      rw [← whole]
      refine .pointed (Text.isDigits_iff.mpr ⟨by simpa using filled, ?_⟩) (exponent?_eq_some_iff.mp scaled)
      exact List.forall_mem_append.mpr ⟨front, behind⟩
    · split_ifs at read with filled
      obtain ⟨power, scaled, rfl⟩ := Option.map_eq_some_iff.mp read
      rw [← whole]
      simp only [List.append_nil, List.length_nil, Nat.cast_zero, sub_zero] at *
      exact .whole (Text.isDigits_iff.mpr ⟨by simpa using filled, front⟩) (exponent?_eq_some_iff.mp scaled)
  · intro spelled
    cases spelled with
    | @whole digits rest power run scaled =>
      obtain ⟨filled, all⟩ := Text.isDigits_iff.mp run
      obtain ⟨taken, left⟩ := Text.span_digits rest all fun c first => (scaled.head c first).1
      simp only [ofText?, taken, left]
      split
      · next tail => exact absurd rfl (scaled.head '.' rfl).2
      · simp [filled, exponent?_eq_some_iff.mpr scaled]
    | @pointed before behind rest power run scaled =>
      obtain ⟨filled, all⟩ := Text.isDigits_iff.mp run
      obtain ⟨allBefore, allBehind⟩ := List.forall_mem_append.mp all
      obtain ⟨taken, left⟩ := Text.span_digits ('.' :: (behind ++ rest)) allBefore (by simp)
      obtain ⟨takenBehind, leftBehind⟩ :=
        Text.span_digits rest allBehind fun c first => (scaled.head c first).1
      simp only [ofText?, taken, left, takenBehind, leftBehind, exponent?_eq_some_iff.mpr scaled]
      rw [if_neg (by simpa using filled)]
      rfl

/-- A text spells one decimal at most, because the reader gives one. -/
theorem Spells.unique {text : List Char} {d d' : Decimal} (spelled : Spells text d)
    (spelled' : Spells text d') : d = d' :=
  Option.some.inj ((ofText?_eq_some_iff.mpr spelled).symm.trans (ofText?_eq_some_iff.mpr spelled'))

end ParamFilter.Decimal
