import Mathlib
import ParamFilter.Proofs.DecimalNotation
import ParamFilter.Proofs.DoubleRange
import ParamFilter.Proofs.KeptTexts

/-!
# What is written of places

A place is written as a list of two coordinates, with a distance if there is one. JSON has no infinities and
nothing that is not a number, so these are written as null, although they are read: the words for them are
read in any case, and so is every decimal, however large. A part of the value therefore has three fates.
It is not read at all, and then there is no place, or no distance. It is read as a number in the range of
doubles, and then a number is written. Or it is read as something else, and then null is written in place
of a number. The sign of a part and the blanks around it do not matter for this, nor does the operator.

A distance is divided by the length of a degree before it is written, which does not change its fate. The
numbers are the doubles that are read; which double is read of a decimal is not said here.
-/

namespace ParamFilter

namespace Text

/-- The words that are read as doubles but are no numbers for JSON. -/
def boundlessWords : List String := ["inf", "infinity", "nan"]

/-- The text is one of these words, in any case. -/
def IsBoundless (text : List Char) : Prop := ∃ word ∈ boundlessWords, text.map Char.toLower = word.toList

/-- The text spells a decimal, and the number that it denotes is in the range of doubles. -/
def IsNumber (text : List Char) : Prop :=
  ∃ decimal, Decimal.Spells text decimal ∧ decimal.value < 2 ^ 1024 - 2 ^ 970

variable {text : List Char}

theorem isBoundless_iff : IsBoundless text ↔
    (text.map Char.toLower = "inf".toList ∨ text.map Char.toLower = "infinity".toList) ∨
      text.map Char.toLower = "nan".toList := by
  simp [IsBoundless, boundlessWords, or_assoc]

/-- The words begin with a letter, and a decimal begins with a digit or with a point. -/
theorem IsBoundless.not_spells (word : IsBoundless text) (decimal : Decimal) :
    ¬Decimal.Spells text decimal := by
  intro spelled
  obtain ⟨c, rest, rfl, noLetter⟩ := spelled.exists_cons
  obtain ⟨word, member, same⟩ := word
  have letter : ∃ c rest, word.toList = c :: rest ∧ c.isAlpha = true := by
    simp only [boundlessWords, List.mem_cons, List.not_mem_nil, or_false] at member
    rcases member with rfl | rfl | rfl <;> exact ⟨_, _, rfl, rfl⟩
  obtain ⟨d, others, written, letter⟩ := letter
  obtain ⟨rfl, _⟩ := List.cons.inj (same.trans written)
  rw [Char.isAlpha_toLower_eq_isAlpha, noLetter] at letter
  cases letter

theorem magnitude?_of_isBoundless (word : IsBoundless text) :
    ∃ x, magnitude? text = some x ∧ x.isFinite = false := by
  rcases isBoundless_iff.mp word with infinite | notNumber
  · exact ⟨1.0 / 0.0, if_pos infinite, by decide⟩
  · by_cases infinite : text.map Char.toLower = "inf".toList ∨ text.map Char.toLower = "infinity".toList
    · exact ⟨1.0 / 0.0, if_pos infinite, by decide⟩
    · exact ⟨0.0 / 0.0, (if_neg infinite).trans (if_pos notNumber), by decide⟩

theorem magnitude?_of_not_isBoundless (plain : ¬IsBoundless text) :
    magnitude? text = (Decimal.ofText? text).map Decimal.toFloat := by
  rw [isBoundless_iff, not_or] at plain
  exact (if_neg plain.1).trans (if_neg plain.2)

/-- A magnitude is one of the words or a decimal. -/
theorem isSome_magnitude? : (magnitude? text).isSome = true ↔
    IsBoundless text ∨ ∃ decimal, Decimal.Spells text decimal := by
  by_cases word : IsBoundless text
  · obtain ⟨x, read, _⟩ := magnitude?_of_isBoundless word
    simp [read, word]
  · simp [magnitude?_of_not_isBoundless word, word, Option.isSome_iff_exists,
      Decimal.ofText?_eq_some_iff]

/-- It is finite exactly if it is a number in the range of doubles. -/
theorem isFinite_of_magnitude? {x : Float} (read : magnitude? text = some x) :
    x.isFinite = true ↔ IsNumber text := by
  by_cases word : IsBoundless text
  · obtain ⟨y, same, infinite⟩ := magnitude?_of_isBoundless word
    cases read.symm.trans same
    simp [infinite, IsNumber, word.not_spells]
  · rw [magnitude?_of_not_isBoundless word] at read
    obtain ⟨decimal, denoted, rfl⟩ := Option.map_eq_some_iff.mp read
    simp [IsNumber, ← Decimal.ofText?_eq_some_iff, denoted, Decimal.isFinite_toFloat_iff]

end Text

namespace Condition

/-- A part of a value without its sign and the blanks around it. -/
def magnitudeOf (part : String) : List Char := (Text.splitSign (Text.trim part.toList)).2

/-- The part is read as a double: it is one of the words, or spells a decimal. -/
def Readable (part : String) : Prop :=
  Text.IsBoundless (magnitudeOf part) ∨ ∃ decimal, Decimal.Spells (magnitudeOf part) decimal

/-- The part denotes a number in the range of doubles. -/
def Denotes (part : String) : Prop := Text.IsNumber (magnitudeOf part)

theorem Denotes.readable {part : String} (denoted : Denotes part) : Readable part :=
  .inr (denoted.imp fun _ spelled => spelled.1)

/-- What is written of a part that is read as `x`, in the unit that `scaled` gives: a number if the part
denotes one, and null otherwise. -/
structure Shows (part : String) (scaled : Float → Float) (x : Float) (json : Json) : Prop where
  read : coordinate? part = some x
  number : Denotes part → json = .float (scaled x) ∧ (scaled x).isFinite = true
  null : ¬Denotes part → json = .null

/-- The distance that is written in degrees, under its key: none if there is no third part or it cannot be
read. -/
inductive ShowsDistance : List String → List (String × Json) → Prop where
  | none {rest : List String} (unread : ∀ part ∈ rest.head?, ¬Readable part) : ShowsDistance rest []
  | some {part : String} {others : List String} {miles : Float} {json : Json} (read : Readable part)
      (shows : Shows part (· / 69.0) miles json) : ShowsDistance (part :: others) [("$maxDistance", json)]

variable {part : String} {x : Float}

theorem isSome_coordinate? : (coordinate? part).isSome = true ↔ Readable part := by
  rw [Readable, ← Text.isSome_magnitude?, coordinate?, Text.float?]
  exact Bool.eq_iff_iff.mp Option.isSome_map

theorem isFinite_of_coordinate? (read : coordinate? part = some x) : x.isFinite = true ↔ Denotes part := by
  obtain ⟨magnitude, found, rfl⟩ := Option.map_eq_some_iff.mp read
  have unsigned : magnitude.isFinite = true ↔ Denotes part := Text.isFinite_of_magnitude? found
  rw [← unsigned]
  split_ifs
  · rw [Double.isFinite_neg]
  · rfl

/-- Another unit does not change what is written, if it keeps the number finite or not. -/
theorem shows_ofFloat {scaled : Float → Float} (read : coordinate? part = some x)
    (alike : (scaled x).isFinite = x.isFinite) : Shows part scaled x (.ofFloat (scaled x)) := by
  have finite : (scaled x).isFinite = true ↔ Denotes part := by
    rw [alike, isFinite_of_coordinate? read]
  refine ⟨read, fun denoted => ?_, fun other => ?_⟩
  · exact ⟨if_pos (finite.mpr denoted), finite.mpr denoted⟩
  · exact if_neg fun number => other (finite.mp number)

/-- The length of a degree is no small number. -/
theorem isFinite_div_milesPerDegree (miles : Float) :
    (miles / milesPerDegree).isFinite = miles.isFinite :=
  Double.isFinite_div miles (by decide : Double.Normal (-49) 971 milesPerDegree.toModel.unpack)

/-- A place gives no condition exactly if it has no two coordinates that can be read. -/
theorem ofPlace?_eq_none_iff {latitude longitude value : String} {rest : List String}
    (parts : tokens value = latitude :: longitude :: rest) :
    ofPlace? value = none ↔ ¬(Readable latitude ∧ Readable longitude) := by
  rw [← isSome_coordinate?, ← isSome_coordinate?]
  simp only [ofPlace?, parts]
  cases coordinate? latitude <;> cases coordinate? longitude <;> simp

/-- The coordinates and the distance are written as their parts show. -/
theorem toJson_of_ofPlace? {latitude longitude value : String} {rest : List String} {condition : Condition}
    (parts : tokens value = latitude :: longitude :: rest) (place : ofPlace? value = some condition) :
    ∃ x y first second distance,
      condition.toJson = .obj (distance ++ [("$near", .arr [first, second])]) ∧
      Shows latitude id x first ∧ Shows longitude id y second ∧ ShowsDistance rest distance := by
  simp only [ofPlace?, parts, Option.bind_eq_bind, Option.pure_def, Option.bind_eq_some_iff] at place
  obtain ⟨x, readX, y, readY, made⟩ := place
  have coordinates : Shows latitude id x (.ofFloat x) ∧ Shows longitude id y (.ofFloat y) :=
    ⟨shows_ofFloat readX rfl, shows_ofFloat readY rfl⟩
  cases third : rest.head?.bind coordinate? with
  | none =>
    rw [third] at made
    obtain rfl := Option.some.inj made
    refine ⟨x, y, .ofFloat x, .ofFloat y, [], rfl, coordinates.1, coordinates.2, .none fun part here => ?_⟩
    rw [← isSome_coordinate?, Option.bind_eq_none_iff.mp third part here]
    decide
  | some miles =>
    rw [third] at made
    obtain rfl := Option.some.inj made
    obtain ⟨part, here, read⟩ := Option.bind_eq_some_iff.mp third
    obtain ⟨others, rfl⟩ := List.head?_eq_some_iff.mp here
    refine ⟨x, y, .ofFloat x, .ofFloat y, [("$maxDistance", .ofFloat (miles / milesPerDegree))], rfl,
      coordinates.1, coordinates.2, .some ?_ (shows_ofFloat read (isFinite_div_milesPerDegree miles))⟩
    rw [← isSome_coordinate?, read]
    rfl

/-- A value is cut at its commas, and it becomes a place exactly if its first two parts can be read. Then
two coordinates are written, and a distance exactly if there is a third part that can be read, each of them
as its part shows. So all of them are numbers exactly if the parts that are read denote numbers in the range
of doubles, and a word such as `nan` or a decimal such as `1e309` puts null in place of a number. -/
theorem numbers_of_places (value : String) (operator : Option String) :
    ∃ parts, CutAtCommas value parts ∧
      (ofOperand? .geoPoint value operator = none ↔
        ¬∃ latitude longitude rest, parts = latitude :: longitude :: rest ∧
          Readable latitude ∧ Readable longitude) ∧
      ∀ condition, ofOperand? .geoPoint value operator = some condition →
        ∃ latitude longitude rest x y first second distance, parts = latitude :: longitude :: rest ∧
          condition.toJson = .obj (distance ++ [("$near", .arr [first, second])]) ∧
          Shows latitude id x first ∧ Shows longitude id y second ∧ ShowsDistance rest distance := by
  refine ⟨tokens value, cutAtCommas_iff.mpr rfl, ?_⟩
  change (ofPlace? value = none ↔ _) ∧ ∀ condition, ofPlace? value = some condition → _
  match parts : tokens value with
  | [] | [_] => simp [ofPlace?, parts]
  | latitude :: longitude :: rest =>
    refine ⟨?_, fun condition place => ?_⟩
    · simp [ofPlace?_eq_none_iff parts]
    · obtain ⟨x, y, first, second, distance, written, shown⟩ := toJson_of_ofPlace? parts place
      exact ⟨latitude, longitude, rest, x, y, first, second, distance, rfl, written, shown⟩

/-- A place on the map, with a distance that is too large for a double. -/
theorem place_without_bounds : ∃ x y : Float, x.isFinite = true ∧ y.isFinite = true ∧
    (ofOperand? .geoPoint "40.7, -74,1e400" none).map toJson =
      some (.obj [("$maxDistance", .null), ("$near", .arr [.float x, .float y])]) := by
  obtain ⟨parts, cut, absent, present⟩ := numbers_of_places "40.7, -74,1e400" none
  obtain rfl : parts = ["40.7", " -74", "1e400"] := (cutAtCommas_iff.mp cut).trans (by decide)
  have latitude : Denotes "40.7" := ⟨⟨407, -1⟩, Decimal.ofText?_eq_some_iff.mp (by decide),
    (Double.inRange_iff 407 (-1)).mp (Double.inRange_of_exact (by decide) (by decide))⟩
  have longitude : Denotes " -74" := ⟨⟨74, 0⟩, Decimal.ofText?_eq_some_iff.mp (by decide),
    (Double.inRange_iff 74 0).mp (Double.inRange_of_exact (by decide) (by decide))⟩
  have reads : Decimal.Spells (magnitudeOf "1e400") ⟨1, 400⟩ :=
    Decimal.ofText?_eq_some_iff.mp (by decide)
  have tooFar : ¬Denotes "1e400" := by
    rintro ⟨decimal, spelled, inRange⟩
    obtain rfl := reads.unique spelled
    exact Double.not_inRange_of_le 0 (by decide) (by decide) ((Double.inRange_iff 1 400).mpr inRange)
  cases place : ofOperand? .geoPoint "40.7, -74,1e400" none with
  | none => exact absurd ⟨_, _, _, rfl, latitude.readable, longitude.readable⟩ (absent.mp place)
  | some condition =>
    obtain ⟨_, _, _, x, y, first, second, distance, same, written, shownX, shownY, shown⟩ :=
      present condition place
    obtain ⟨rfl, rfl, rfl⟩ : "40.7" = _ ∧ " -74" = _ ∧ ["1e400"] = _ := by simpa using same
    obtain ⟨rfl, finiteX⟩ := shownX.number latitude
    obtain ⟨rfl, finiteY⟩ := shownY.number longitude
    cases shown with
    | none unread => exact absurd (.inr ⟨_, reads⟩) (unread "1e400" rfl)
    | some read shows =>
      obtain rfl := shows.null tooFar
      exact ⟨x, y, finiteX, finiteY, congrArg some written⟩

/-- A latitude that is no number is read all the same, and null is written for it. -/
theorem latitude_that_is_no_number : (ofOperand? .geoPoint "nan,0" none).map toJson =
    some (.obj [("$near", .arr [.null, .float 0.0])]) := by rfl

end Condition

end ParamFilter
