/-!
# Text from bytes

Reading bytes as UTF-8 text without ever failing. A well-formed sequence gives its character. Where no
character can be completed, the longest run of bytes that begins one, or else a single byte, gives one
replacement character and reading goes on behind it. Main statement: the encoding of a text reads back
as that text.
-/

namespace ParamFilter.Text.Utf8

/-- What stands for bytes that are no text. -/
def replacement : Char := '\ufffd'

/-- A byte that continues a sequence. -/
def isTail (b : Nat) : Bool := 0x80 ≤ b && b ≤ 0xbf

/-- The bytes that may follow a first byte of three: overlong forms and surrogates are excluded. -/
def isSecondOfThree (first b : Nat) : Bool :=
  if first = 0xe0 then 0xa0 ≤ b && b ≤ 0xbf
  else if first = 0xed then 0x80 ≤ b && b ≤ 0x9f
  else isTail b

/-- The bytes that may follow a first byte of four: overlong forms and codes past the last plane are
    excluded. -/
def isSecondOfFour (first b : Nat) : Bool :=
  if first = 0xf0 then 0x90 ≤ b && b ≤ 0xbf
  else if first = 0xf4 then 0x80 ≤ b && b ≤ 0x8f
  else isTail b

/-- The character that starts at a byte, and how many of the following bytes belong to it. -/
def sequence (first : Nat) (following : List Nat) : Char × Nat :=
  if first < 0x80 then (Char.ofNat first, 0)
  else if 0xc2 ≤ first && first ≤ 0xdf then
    match following with
    | b :: _ => if isTail b then (Char.ofNat ((first - 0xc0) * 64 + (b - 0x80)), 1) else (replacement, 0)
    | [] => (replacement, 0)
  else if 0xe0 ≤ first && first ≤ 0xef then
    match following with
    | b :: c :: _ =>
      if !isSecondOfThree first b then (replacement, 0)
      else if !isTail c then (replacement, 1)
      else (Char.ofNat ((first - 0xe0) * 4096 + (b - 0x80) * 64 + (c - 0x80)), 2)
    | [b] => (replacement, if isSecondOfThree first b then 1 else 0)
    | [] => (replacement, 0)
  else if 0xf0 ≤ first && first ≤ 0xf4 then
    match following with
    | b :: c :: d :: _ =>
      if !isSecondOfFour first b then (replacement, 0)
      else if !isTail c then (replacement, 1)
      else if !isTail d then (replacement, 2)
      else (Char.ofNat
        ((first - 0xf0) * 262144 + (b - 0x80) * 4096 + (c - 0x80) * 64 + (d - 0x80)), 3)
    | [b, c] =>
      (replacement, if !isSecondOfFour first b then 0 else if isTail c then 2 else 1)
    | [b] => (replacement, if isSecondOfFour first b then 1 else 0)
    | [] => (replacement, 0)
  else (replacement, 0)

/-- The text that a list of bytes spells. -/
def decode : List Nat → List Char
  | [] => []
  | first :: following =>
    let (c, used) := sequence first following
    c :: decode (following.drop used)
termination_by bytes => bytes.length
decreasing_by simp only [List.length_drop, List.length_cons]; omega

/-- The bytes of one character. -/
def encodeChar (c : Char) : List Nat := (String.utf8EncodeChar c).map UInt8.toNat

/-- The bytes of a text. -/
def encode (text : List Char) : List Nat := text.flatMap encodeChar

theorem encode_cons (c : Char) (rest : List Char) : encode (c :: rest) = encodeChar c ++ encode rest :=
  List.flatMap_cons

theorem encode_append (left right : List Char) : encode (left ++ right) = encode left ++ encode right :=
  List.flatMap_append

/-- The text that a list of bytes spells, if it spells one. -/
def decode? (bytes : List Nat) : Option (List Char) :=
  if encode (decode bytes) = bytes then some (decode bytes) else none

/-- The bytes of a character, by the size of its code point. -/
theorem encodeChar_eq (c : Char) : encodeChar c =
    if c.toNat ≤ 0x7f then [c.toNat]
    else if c.toNat ≤ 0x7ff then [c.toNat / 64 + 0xc0, c.toNat % 64 + 0x80]
    else if c.toNat ≤ 0xffff then
      [c.toNat / 4096 + 0xe0, c.toNat / 64 % 64 + 0x80, c.toNat % 64 + 0x80]
    else
      [c.toNat / 262144 + 0xf0, c.toNat / 4096 % 64 + 0x80, c.toNat / 64 % 64 + 0x80,
        c.toNat % 64 + 0x80] := by
  have bound : c.toNat < 0x110000 := by
    have valid := c.valid
    simp only [Char.toNat, UInt32.isValidChar, Nat.isValidChar] at valid ⊢
    omega
  have code : c.val.toNat = c.toNat := rfl
  simp only [encodeChar, String.utf8EncodeChar, code]
  split
  · simp; omega
  · split
    · simp; omega
    · split
      · simp; omega
      · simp; omega

/-- A code point is no surrogate. -/
theorem toNat_not_surrogate (c : Char) : c.toNat < 0xd800 ∨ 0xdfff < c.toNat ∧ c.toNat < 0x110000 :=
  c.valid

/-- The bytes of a character, with anything behind them, are read as that character. -/
theorem decode_encodeChar_append (c : Char) (bytes : List Nat) :
    decode (encodeChar c ++ bytes) = c :: decode bytes := by
  have valid := toNat_not_surrogate c
  rw [encodeChar_eq]
  split
  · next small =>
    rw [List.cons_append, decode]
    have below : c.toNat < 0x80 := by omega
    simp [sequence, below, Char.ofNat_toNat]
  · split
    · next low high =>
      have first : ¬c.toNat / 64 + 0xc0 < 0x80 := by omega
      have range : 0xc2 ≤ c.toNat / 64 + 0xc0 ∧ c.toNat / 64 + 0xc0 ≤ 0xdf := by omega
      have tail : isTail (c.toNat % 64 + 0x80) = true := by simp [isTail]; omega
      have value : c.toNat / 64 * 64 + c.toNat % 64 = c.toNat := by omega
      rw [List.cons_append, decode]
      simp [sequence, first, range, tail, value, Char.ofNat_toNat]
    · split
      · next low high =>
        have first : ¬c.toNat / 4096 + 0xe0 < 0x80 := by omega
        have notTwo : ¬(c.toNat / 4096 + 0xe0 ≤ 0xdf) := by omega
        have range : c.toNat / 4096 + 0xe0 ≤ 0xef := by omega
        have second : isSecondOfThree (c.toNat / 4096 + 0xe0) (c.toNat / 64 % 64 + 0x80) = true := by
          unfold isSecondOfThree
          split
          · simp; omega
          · split
            · simp; omega
            · simp [isTail]; omega
        have tail : isTail (c.toNat % 64 + 0x80) = true := by simp [isTail]; omega
        have value : c.toNat / 4096 * 4096 + c.toNat / 64 % 64 * 64 + c.toNat % 64 = c.toNat := by
          omega
        rw [List.cons_append, decode]
        simp [sequence, first, notTwo, range, second, tail, value, Char.ofNat_toNat]
      · next high =>
        have first : ¬c.toNat / 262144 + 0xf0 < 0x80 := by omega
        have notTwo : ¬(c.toNat / 262144 + 0xf0 ≤ 0xdf) := by omega
        have notThree : ¬(c.toNat / 262144 + 0xf0 ≤ 0xef) := by omega
        have range : c.toNat / 262144 + 0xf0 ≤ 0xf4 := by omega
        have second :
            isSecondOfFour (c.toNat / 262144 + 0xf0) (c.toNat / 4096 % 64 + 0x80) = true := by
          unfold isSecondOfFour
          split
          · simp; omega
          · split
            · simp; omega
            · simp [isTail]; omega
        have third : isTail (c.toNat / 64 % 64 + 0x80) = true := by simp [isTail]; omega
        have tail : isTail (c.toNat % 64 + 0x80) = true := by simp [isTail]; omega
        have value : c.toNat / 262144 * 262144 + c.toNat / 4096 % 64 * 4096 +
            c.toNat / 64 % 64 * 64 + c.toNat % 64 = c.toNat := by omega
        rw [List.cons_append, decode]
        simp [sequence, first, notTwo, notThree, range, second, third, tail, value,
          Char.ofNat_toNat]

/-- The encoding of a text reads back as that text. -/
theorem decode_encode (text : List Char) : decode (encode text) = text := by
  induction text with
  | nil => simp [encode, decode]
  | cons c rest ih =>
    rw [encode_cons, decode_encodeChar_append, ih]

end ParamFilter.Text.Utf8
