import Mathlib
import ParamFilter.Proofs.FilterShapes

/-!
# What coercion keeps of a text

The values of numbers and of texts are free text, and so are their operators. A value with a comma is a
list: it is cut at its commas and nowhere else, and the parts stand under one operator, in order and
unchanged. Only the operator for remainders keeps no more than two of them. A value without a comma is kept
as it is, whatever it means, in a literal or under an operator. The one exception is a number without a
comparison, which becomes the integer that the value begins with.

A text always gives a condition. When a number gives none is said in `ofNumber?_eq_none_iff`. What the
reader of leading integers accepts is not spoken of here.
-/

namespace ParamFilter.Condition

/-- The texts between the commas of a value, in order. -/
structure CutAtCommas (value : String) (parts : List String) : Prop where
  joined : ",".intercalate parts = value
  filled : parts ≠ []
  plain : ∀ part ∈ parts, ',' ∉ part.toList

/-- Every text can be cut at a mark into parts without it. -/
theorem exists_cut (mark : Char) (text : List Char) :
    ∃ parts, parts ≠ [] ∧ (∀ part ∈ parts, mark ∉ part) ∧ [mark].intercalate parts = text := by
  induction text with
  | nil => exact ⟨[[]], by simp⟩
  | cons c rest ih =>
    obtain ⟨parts, filled, plain, joined⟩ := ih
    obtain ⟨first, others, rfl⟩ := List.exists_cons_of_ne_nil filled
    by_cases here : c = mark
    · subst here
      exact ⟨[] :: first :: others, by simp, List.forall_mem_cons.mpr ⟨by simp, plain⟩,
        by rw [List.intercalate_cons_cons, joined]; rfl⟩
    · obtain ⟨firstPlain, othersPlain⟩ := List.forall_mem_cons.mp plain
      refine ⟨(c :: first) :: others, by simp, List.forall_mem_cons.mpr
        ⟨by simp [firstPlain, Ne.symm here], othersPlain⟩, ?_⟩
      rw [← joined]
      cases others with
      | nil => simp
      | cons second more => simp [List.intercalate_cons_cons]

/-- There is one way to cut a value at its commas, and it is how lists are read. -/
theorem cutAtCommas_iff {value : String} {parts : List String} :
    CutAtCommas value parts ↔ parts = tokens value := by
  have read : ∀ {parts : List String}, CutAtCommas value parts → parts = tokens value := by
    rintro parts ⟨rfl, filled, plain⟩
    have cut : ([','].intercalate (parts.map String.toList)).splitOn ',' = parts.map String.toList :=
      List.splitOn_intercalate ',' (by simpa using plain) (by simpa using filled)
    have comma : ",".toList = [','] := rfl
    rw [tokens, String.toList_intercalate, comma, cut, List.map_map]
    simp [Function.comp_def]
  refine ⟨read, ?_⟩
  rintro rfl
  obtain ⟨texts, filled, plain, joined⟩ := exists_cut ',' value.toList
  have cut : CutAtCommas value (texts.map String.ofList) := by
    refine ⟨?_, by simpa using filled, by simpa using plain⟩
    rw [← String.toList_inj, String.toList_intercalate, List.map_map]
    simpa [Function.comp_def] using joined
  exact read cut ▸ cut

/-- The key of the operator that a list is put under. Remainders are for numbers only. -/
def listKey (kind : Kind) (operator : Option String) : String :=
  if operator = some "all" then "$all"
  else if operator = some "nin" then "$nin"
  else if kind = .number ∧ operator = some "mod" then "$mod"
  else "$in"

/-- A part of a list: numbers are compared as texts, and texts are patterns. -/
def listItem (kind : Kind) (part : String) : Condition :=
  if kind = .number then .text part else .pattern part

/-- What a list becomes, given its parts. A remainder takes a divisor and a remainder. -/
def listed (kind : Kind) (operator : Option String) (parts : List String) : Condition :=
  let kept := if listKey kind operator = "$mod" then parts.take 2 else parts
  .operators [(listKey kind operator, .list (kept.map (listItem kind)))]

/-- The conditions that carry one text unchanged, and no other text that is not fixed. -/
inductive Carries (value : String) : Condition → Prop where
  | literal : Carries value (.text value)
  | compared {name : String} (range : name ∈ ["gt", "gte", "lt", "lte"]) :
      Carries value (.operators [("$" ++ name, .text value)])
  | excluded : Carries value (.operators [("$not", .pattern value)])
  | inPart : Carries value (.operators [("$options", .text "-i"), ("$regex", .text value)])

theorem isList_iff {value : String} : isList value = true ↔ ',' ∈ value.toList := by
  simp [isList]

theorem isList_eq_false_iff {value : String} : isList value = false ↔ ',' ∉ value.toList := by
  simp [isList]

section Values

variable {value : String} (operator : Option String)

/-- A list of numbers, one of which has a digit. -/
theorem ofNumber?_of_list (digit : value.toList.any Char.isDigit = true) (list : isList value = true) :
    ofNumber? value operator = some (listed .number operator (tokens value)) := by
  simp only [ofNumber?, digit, list, Bool.not_true, Bool.false_eq_true, if_true, if_false]
  split
  · rfl
  · rfl
  · rfl
  · next noAll noNin noMod =>
    have key : listKey .number operator = "$in" := by
      rw [listKey, if_neg noAll, if_neg noNin, if_neg fun known => noMod known.2]
    rw [listed, key]
    rfl

/-- A list of texts. -/
theorem ofString_of_list (list : isList value = true) :
    ofString value operator = listed .string operator (tokens value) := by
  simp only [ofString, list, if_true]
  split
  · rfl
  · rfl
  · next noAll noNin =>
    have key : listKey .string operator = "$in" := by
      rw [listKey, if_neg noAll, if_neg noNin, if_neg fun known => absurd known.1 (by decide)]
    rw [listed, key]
    rfl

/-- A comparison of numbers carries its value as it is. -/
theorem ofNumber?_of_comparison (digit : value.toList.any Char.isDigit = true)
    (single : isList value = false) {name : String} (known : name ∈ comparisons) :
    ofNumber? value (some name) = some (.operator name (.text value)) := by
  simp only [ofNumber?, digit, single, Bool.not_true, Bool.false_eq_true, if_false]
  rw [if_pos (List.contains_iff_mem.mpr known)]

/-- Any other number is the integer that its value begins with. -/
theorem ofNumber?_of_no_comparison (digit : value.toList.any Char.isDigit = true)
    (single : isList value = false) (unknown : ∀ name ∈ comparisons, operator ≠ some name) :
    ofNumber? value operator = (Text.leadingInt? value.toList).map .int := by
  simp only [ofNumber?, digit, single, Bool.not_true, Bool.false_eq_true, if_false]
  split
  · next name =>
    rw [if_neg fun known => unknown name (List.contains_iff_mem.mp known) rfl]
  · rfl

/-- A literal is carried with and without an operator of order. -/
theorem Carries.under (operator : Option String) :
    Carries value (under rangeOperators operator (.text value)) := by
  unfold Condition.under
  split
  · next name =>
    split
    · next range => exact .compared (List.contains_iff_mem.mp range)
    · exact .literal
  · exact .literal

/-- A text that is no list is carried as it is. -/
theorem carries_ofString (single : isList value = false) : Carries value (ofString value operator) := by
  simp only [ofString, single, Bool.false_eq_true, if_false]
  split
  · exact .under operator
  · split
    · exact .excluded
    · exact .excluded
    · exact .literal
    · exact .inPart

/-- A number gives no condition if it has no digit, or if it is to be an integer and begins with none that
fits a word. -/
theorem ofNumber?_eq_none_iff : ofNumber? value operator = none ↔
    value.toList.any Char.isDigit = false ∨ (isList value = false ∧
      (∀ name ∈ comparisons, operator ≠ some name) ∧ Text.leadingInt? value.toList = none) := by
  cases digit : value.toList.any Char.isDigit with
  | false => simp [ofNumber?, digit]
  | true =>
    cases single : isList value with
    | true => simp [ofNumber?_of_list operator digit single]
    | false =>
      by_cases known : ∃ name ∈ comparisons, operator = some name
      · obtain ⟨name, member, rfl⟩ := known
        have given := ofNumber?_of_comparison digit single member
        simp only [given, reduceCtorEq, false_or, true_and, false_iff, not_and]
        exact fun unknown => absurd rfl (unknown name member)
      · have unknown : ∀ name ∈ comparisons, operator ≠ some name := fun name member same =>
          known ⟨name, member, same⟩
        rw [ofNumber?_of_no_comparison operator digit single unknown, Option.map_eq_none_iff]
        exact ⟨fun none => .inr ⟨rfl, unknown, none⟩, fun given => (given.resolve_left (by simp)).2.2⟩

end Values

/-- Coercion keeps the text of numbers and of texts. A list keeps its parts, cut at its commas and in order,
under one operator; only a remainder is left with two of them. Any other value is carried whole, unless it is
a number without a comparison, which is the integer that it begins with. A text always gives a condition,
and a number fails to give one for want of a digit or of such an integer alone.

Which operators count differs between the two kinds, and so does the order in which commas, digits and
operators are looked at. -/
theorem texts_kept (value : String) (operator : Option String) :
    (',' ∈ value.toList → ∃ parts, CutAtCommas value parts ∧ 2 ≤ parts.length ∧
      ofOperand? .string value operator = some (listed .string operator parts) ∧
      ((∃ c ∈ value.toList, c.isDigit = true) →
        ofOperand? .number value operator = some (listed .number operator parts))) ∧
    (',' ∉ value.toList →
      (∃ condition, ofOperand? .string value operator = some condition ∧ Carries value condition) ∧
      ((∃ c ∈ value.toList, c.isDigit = true) →
        (∀ name ∈ ["gt", "gte", "lt", "lte", "ne"], operator = some name →
          ofOperand? .number value operator = some (.operators [("$" ++ name, .text value)])) ∧
        ((∀ name ∈ ["gt", "gte", "lt", "lte", "ne"], operator ≠ some name) →
          ofOperand? .number value operator = (Text.leadingInt? value.toList).map .int))) ∧
    (ofOperand? .string value operator ≠ none) ∧
    (ofOperand? .number value operator = none ↔ (∀ c ∈ value.toList, c.isDigit = false) ∨
      (',' ∉ value.toList ∧ (∀ name ∈ ["gt", "gte", "lt", "lte", "ne"], operator ≠ some name) ∧
        Text.leadingInt? value.toList = none)) := by
  refine ⟨fun comma => ?_, fun noComma => ⟨?_, fun digit => ⟨?_, ?_⟩⟩, ?_, ?_⟩
  · have list := isList_iff.mpr comma
    refine ⟨tokens value, cutAtCommas_iff.mpr rfl, two_le_length_tokens list, ?_, fun digit => ?_⟩
    · rw [ofOperand?, ofString_of_list operator list]
    · exact ofNumber?_of_list operator (by simpa using digit) list
  · exact ⟨_, rfl, carries_ofString operator (isList_eq_false_iff.mpr noComma)⟩
  · rintro name known rfl
    exact ofNumber?_of_comparison (by simpa using digit) (isList_eq_false_iff.mpr noComma) known
  · exact ofNumber?_of_no_comparison operator (by simpa using digit) (isList_eq_false_iff.mpr noComma)
  · exact Option.some_ne_none _
  · have noDigit : value.toList.any Char.isDigit = false ↔
        ∀ c ∈ value.toList, c.isDigit = false := by simp
    rw [← noDigit, ← isList_eq_false_iff]
    exact ofNumber?_eq_none_iff operator

/-- A list with an empty part, as numbers and as texts, and a number that is more than an integer. -/
theorem remainder_of_a_ragged_list :
    ',' ∈ "4,,x".toList ∧ ',' ∉ "-7up".toList ∧
      ofOperand? .number "4,,x" (some "mod") =
        some (.operators [("$mod", .list [.text "4", .text ""])]) ∧
      ofOperand? .string "4,,x" (some "mod") =
        some (.operators [("$in", .list [.pattern "4", .pattern "", .pattern "x"])]) ∧
      ofOperand? .number "-7up" (some "exact") = some (.int (-7)) := by
  have comma : ',' ∈ "4,,x".toList := by decide
  have noComma : ',' ∉ "-7up".toList := by decide
  obtain ⟨parts, cut, _, texts, numbers⟩ := (texts_kept "4,,x" (some "mod")).1 comma
  obtain rfl : parts = ["4", "", "x"] := (cutAtCommas_iff.mp cut).trans (by cbv)
  have single := ((texts_kept "-7up" (some "exact")).2.1 noComma).2 ⟨'7', by decide, by decide⟩
  exact ⟨comma, noComma, numbers ⟨'4', by decide, by decide⟩, texts, single.2 (by decide)⟩

end ParamFilter.Condition
