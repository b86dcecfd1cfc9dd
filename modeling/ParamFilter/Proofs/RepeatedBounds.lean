import Mathlib
import ParamFilter.Proofs.BoundRows
import ParamFilter.Proofs.LeadingNumbers
import ParamFilter.Proofs.WrittenQueries

/-!
# Repeated bounds

Several bounds on one number can be written in one value, `age={gte}18{lte}65`, or under a repeated
key, `age={gte}18&age={lte}65`. The first way keeps all of them. The second does not. Repeated values
are joined by commas and read as one chunk, and the brace match takes everything from the first brace
to the last closing one as the operator. No kind knows such an operator. So the value behind the last
bound is read as a plain number, and all other bounds are lost without a word.

Both spellings are followed here from the query string to the filter, for bounds on numbers and any
number of them. They never ask for the same. Repeated values of other kinds are not a matter of this
module.
-/

namespace ParamFilter

namespace Operand

/-- What stands between the first opening and the last closing brace when operands are joined by
commas: everything but the two braces and the last value. -/
def joinedOperator : List (String × String) → String → String
  | [], name => name
  | operand :: rest, name =>
    operand.1 ++ "\x7d" ++ operand.2 ++ "," ++ "\x7b" ++ joinedOperator rest name

/-- Operands joined by commas look like one written operand with a long operator. -/
theorem intercalate_written (former : List (String × String)) (name value : String) :
    ",".intercalate ((former ++ [(name, value)]).map fun operand => written operand.1 operand.2) =
      written (joinedOperator former name) value := by
  induction former with
  | nil => simp [joinedOperator]
  | cons operand rest ih =>
    rw [List.cons_append, List.map_cons, String.intercalate_cons_of_ne_nil (by simp), ih]
    simp only [written, joinedOperator, String.append_assoc, -String.reduceAppend]

/-- A joined operator holds a closing brace, that of its first part. -/
theorem close_mem_joinedOperator {former : List (String × String)} (several : former ≠ [])
    (name : String) : '\x7d' ∈ (joinedOperator former name).toList := by
  obtain ⟨operand, rest, rfl⟩ := List.exists_cons_of_ne_nil several
  simp [joinedOperator]

/-- A joined operator stays on one line if its parts do. -/
theorem feed_not_mem_joinedOperator {former : List (String × String)} {name : String}
    (parts : ∀ operand ∈ former, '\n' ∉ operand.1.toList ∧ '\n' ∉ operand.2.toList)
    (last : '\n' ∉ name.toList) : '\n' ∉ (joinedOperator former name).toList := by
  induction former with
  | nil => exact last
  | cons operand rest ih =>
    have first := parts operand List.mem_cons_self
    have others := ih fun later member => parts later (List.mem_cons_of_mem _ member)
    simp [joinedOperator, first, others]

/-- A bound on a number: a comparison and a run of digits. -/
structure Bound (bound : String × String) : Prop where
  compared : bound.1 ∈ Condition.comparisons
  digits : Text.isDigits bound.2.toList = true

variable {bound : String × String}

theorem Bound.isDigit (written : Bound bound) {c : Char} (member : c ∈ bound.2.toList) :
    c.isDigit = true :=
  (Text.isDigits_iff.mp written.digits).2 c member

/-- A bound on a number may stand in a row. -/
theorem Bound.boundOn (written : Bound bound) : BoundOn .number bound where
  compares := written.compared
  filled := fun empty => (Text.isDigits_iff.mp written.digits).1 (by rw [empty]; rfl)
  sameLine := by
    intro head
    have feed : '\n' ∈ bound.2.toList := List.mem_of_mem_head? head
    exact absurd (written.isDigit feed) (by decide)
  plain := fun c member => (Text.plain_of_isDigit (written.isDigit member)).2.2.2.2.2
  single := fun comma => absurd (written.isDigit comma) (by decide)
  digits := nofun

/-- A bound is written on one line. -/
theorem Bound.feed_not_mem (written : Bound bound) :
    '\n' ∉ bound.1.toList ∧ '\n' ∉ bound.2.toList := by
  constructor
  · intro feed
    exact absurd (written.boundOn.name_is_word.2.1 _ feed) (by decide)
  · intro feed
    exact absurd (written.isDigit feed) (by decide)

/-- The brace match on joined bounds leaves the last value and takes all before it as the operator. -/
theorem ofChunk_joined {former : List (String × String)} (several : former ≠ [])
    {last : String × String} (written : ∀ bound ∈ former ++ [last], Bound bound) :
    ofChunk (Operand.written (joinedOperator former last.1) last.2) =
      ⟨some (joinedOperator former last.1), last.2⟩ := by
  have ending : Bound last := written last (by simp)
  apply ofChunk_written_of_line
  · intro empty
    have close := close_mem_joinedOperator several last.1
    rw [empty] at close
    cases close
  · apply feed_not_mem_joinedOperator _ ending.feed_not_mem.1
    intro bound member
    exact (written bound (List.mem_append_left _ member)).feed_not_mem
  · intro brace
    exact absurd (ending.isDigit brace) (by decide)

end Operand

namespace Condition

/-- A run of digits has a digit. -/
theorem any_isDigit_of_isDigits {value : String} (digits : Text.isDigits value.toList = true) :
    value.toList.any Char.isDigit = true := by
  obtain ⟨filled, all⟩ := Text.isDigits_iff.mp digits
  obtain ⟨c, member⟩ := List.exists_mem_of_ne_nil _ filled
  exact List.any_eq_true.mpr ⟨c, member, all c member⟩

/-- A run of digits is a number and no list, so its operator alone decides. -/
theorem ofNumber?_of_isDigits {value : String} (digits : Text.isDigits value.toList = true)
    (name : String) :
    ofNumber? value (some name) =
      if comparisons.contains name then some (.operator name (.text value))
      else (Text.leadingInt? value.toList).map .int := by
  have all := (Text.isDigits_iff.mp digits).2
  have someDigit := any_isDigit_of_isDigits digits
  have noList : isList value = false := by
    rw [isList, List.contains_eq_any_beq, List.any_eq_false]
    intro d inside same
    rw [← beq_iff_eq.mp same] at inside
    exact absurd (all _ inside) (by decide)
  simp only [ofNumber?, someDigit, noList, Bool.not_true, Bool.false_eq_true, if_false]

/-- Every bound on a number can be used, and compares with its text. -/
theorem usableBounds_of_bound {bounds : List (String × String)}
    (written : ∀ bound ∈ bounds, Operand.Bound bound) :
    usableBounds .number bounds = bounds.map fun bound => (bound.1, .text bound.2) := by
  rw [usableBounds, ← List.filterMap_eq_map]
  apply List.filterMap_congr
  intro bound member
  rw [boundOperand?, if_pos (any_isDigit_of_isDigits (written bound member).digits)]
  rfl

/-- Under the key of a comparison stands the text of its bound. -/
theorem lookup_operatorKey (bounds : List (String × String)) (name : String) :
    (bounds.map fun bound => (operatorKey bound.1, Condition.text bound.2)).lookup (operatorKey name) =
      (bounds.lookup name).map .text := by
  induction bounds with
  | nil => rfl
  | cons bound rest ih =>
    rw [List.map_cons, List.lookup_cons, List.lookup_cons, ih]
    by_cases same : name = bound.1
    · simp [same]
    · have keys : operatorKey name ≠ operatorKey bound.1 := fun equal => same (operatorKey_injective equal)
      simp [beq_eq_false_iff_ne.mpr same, beq_eq_false_iff_ne.mpr keys]

/-- A text with a closing brace is no comparison. -/
theorem not_mem_comparisons {name : String} (close : '\x7d' ∈ name.toList) : name ∉ comparisons := by
  intro compared
  have names : comparisons.all (fun name => !name.toList.contains '\x7d') = true := by decide
  have plain := List.all_eq_true.mp names name compared
  simp [close] at plain

end Condition

namespace Schema

/-- On a number every operator but the one that asks for a place leads to the coercion of numbers. -/
theorem condition?_of_number {schema : Schema} {key : String}
    (number : (resolve (some schema) "" key none).kind = .number) {operator : Option String}
    (elsewhere : operator ≠ some nearOperator) (value : String) :
    schema.condition? key ⟨operator, value⟩ = Condition.ofNumber? value operator := by
  rw [condition?, kind_resolve_of_ne_near elsewhere, number]
  rfl

/-- Joined bounds on a number give the number that the last of them ends with. -/
theorem condition?_joined {schema : Schema} {key : String}
    (number : (resolve (some schema) "" key none).kind = .number)
    {former : List (String × String)} (several : former ≠ []) {last : String × String}
    (written : Operand.Bound last) :
    schema.condition? key ⟨some (Operand.joinedOperator former last.1), last.2⟩ =
      (Text.word64? (Text.digitsValue last.2.toList)).map .int := by
  have close := Operand.close_mem_joinedOperator several last.1
  have elsewhere : some (Operand.joinedOperator former last.1) ≠ some nearOperator := by
    intro same
    rw [Option.some.inj same] at close
    exact absurd close (by decide)
  have unknown : Condition.comparisons.contains (Operand.joinedOperator former last.1) ≠ true :=
    fun known => Condition.not_mem_comparisons close (List.contains_iff_mem.mp known)
  rw [condition?_of_number number elsewhere, Condition.ofNumber?_of_isDigits written.digits,
    if_neg unknown, Text.leadingInt?_of_isDigits written.digits]

end Schema

namespace Request

variable {schema : Schema} {key : String}

/-- Bounds in one value are all kept. -/
theorem filter_bounds_together (unreserved : key ∉ reservedKeys)
    (number : (Schema.resolve (some schema) "" key none).kind = .number)
    {bounds : List (String × String)} (present : bounds ≠ [])
    (written : ∀ bound ∈ bounds, Operand.Bound bound) :
    (ofParams schema (Params.ofQuery (Params.spellQuery
      [(key, String.join (bounds.map fun bound => Operand.written bound.1 bound.2))]))).filter =
      Filter.empty.set key (.operators (Keyed.ofList
        (bounds.map fun bound => (Condition.operatorKey bound.1, .text bound.2)))) := by
  have inRow : ∀ bound ∈ bounds, Operand.BoundOn .number bound :=
    fun bound member => (written bound member).boundOn
  have kept := filter_ofParams_row schema unreserved number inRow
  have filled : bounds.map (fun bound => (bound.1, Condition.text bound.2)) ≠ [] := by simpa using present
  rw [Condition.usableBounds_of_bound written, Filter.foldl_merge_operator_empty key filled,
    List.map_map] at kept
  rw [Params.ofQuery_spellQuery_singleton]
  exact kept

/-- Of bounds under a repeated key the last number alone is kept, as a number to be equal to, if it
fits a signed word. -/
theorem filter_bounds_repeated (unreserved : key ∉ reservedKeys)
    (number : (Schema.resolve (some schema) "" key none).kind = .number)
    {former : List (String × String)} (several : former ≠ []) {last : String × String}
    (written : ∀ bound ∈ former ++ [last], Operand.Bound bound) :
    (ofParams schema (Params.ofQuery (Params.spellQuery
      ((former ++ [last]).map fun bound => (key, Operand.written bound.1 bound.2))))).filter =
      match Text.word64? (Text.digitsValue last.2.toList) with
      | some n => Filter.empty.set key (.int n)
      | none => .empty := by
  have ending : Operand.Bound last := written last (by simp)
  have count : 2 ≤ ((former ++ [last]).map fun bound => Operand.written bound.1 bound.2).length := by
    have positive := List.length_pos_iff.mpr several
    simp only [List.length_map, List.length_append, List.length_singleton]
    omega
  have joined : (ofParams schema (Params.ofQuery (Params.spellQuery
      ((former ++ [last]).map fun bound => (key, Operand.written bound.1 bound.2))))) =
      ofParams schema (Params.ofList
        [(key, .multi ((former ++ [last]).map fun bound => Operand.written bound.1 bound.2))]) := by
    apply ofParams_congr
    intro asked
    rw [← Params.get?_ofQuery_spellQuery_map key count, List.map_map]
    rfl
  have coerced : schema.chunkCondition? key
      (Operand.written (Operand.joinedOperator former last.1) last.2) =
      (Text.word64? (Text.digitsValue last.2.toList)).map .int := by
    rw [Schema.chunkCondition?, Operand.ofChunk_joined several written, if_neg ending.boundOn.filled,
      Schema.condition?_joined number several ending]
  rw [joined, ofParams_field schema unreserved, Operand.chunks_multi (by simp),
    Operand.intercalate_written]
  cases fits : Text.word64? (Text.digitsValue last.2.toList) with
  | some n =>
    rw [fits] at coerced
    simp [coerced, Filter.merge]
  | none =>
    rw [fits] at coerced
    simp [coerced]

/-- Bounds on one number are all kept when they are written in one value. Under a repeated key the
last number alone is kept, and not as a bound: the path has to be equal to it, or is free if the
number does not fit a signed word. So the two spellings never ask for the same.

One value: its chunks are the bounds, and their comparisons are merged. Repeated key: the values are
one chunk, whose operator is no comparison because it holds a closing brace. -/
theorem repeated_bounds_keep_the_last_number (schema : Schema) {key : String}
    {bounds : List (String × String)} (unreserved : key ∉ reservedKeys)
    (number : (Schema.resolve (some schema) "" key none).kind = .number)
    (several : 2 ≤ bounds.length) (distinct : (bounds.map Prod.fst).Nodup)
    (written : ∀ bound ∈ bounds, Operand.Bound bound) :
    let together := ofParams schema (Params.ofQuery (Params.spellQuery
      [(key, String.join (bounds.map fun bound => Operand.written bound.1 bound.2))]))
    let repeated := ofParams schema (Params.ofQuery (Params.spellQuery
      (bounds.map fun bound => (key, Operand.written bound.1 bound.2))))
    (∃ operands, together.filter.entries = [(key, .operators operands)] ∧
      operands = Keyed.ofList
        (bounds.map fun bound => (Condition.operatorKey bound.1, Condition.text bound.2)) ∧
      ∀ name, operands.lookup (Condition.operatorKey name) = (bounds.lookup name).map .text) ∧
    (∃ last, bounds.getLast? = some last ∧
      repeated.filter.entries = match Text.word64? (Text.digitsValue last.2.toList) with
        | some n => [(key, .int n)]
        | none => []) ∧
    together.filter ≠ repeated.filter := by
  intro together repeated
  obtain ⟨former, last, rfl⟩ : ∃ former last, bounds = former ++ [last] :=
    (List.eq_nil_or_concat' bounds).resolve_left (by rintro rfl; cases several)
  have formerFilled : former ≠ [] := by
    rintro rfl
    exact absurd several (by simp)
  have kept := filter_bounds_together unreserved number (by simp) written
  have lost := filter_bounds_repeated unreserved number formerFilled written
  refine ⟨?_, ?_, ?_⟩
  · refine ⟨_, by rw [kept]; rfl, rfl, ?_⟩
    intro name
    rw [Keyed.lookup_ofList (Condition.nodup_operatorKeys distinct), Condition.lookup_operatorKey]
  · refine ⟨last, by simp, ?_⟩
    rw [lost]
    cases Text.word64? (Text.digitsValue last.2.toList) <;> rfl
  · rw [kept, lost]
    intro same
    have entries := congrArg Filter.entries same
    cases fits : Text.word64? (Text.digitsValue last.2.toList) <;> rw [fits] at entries <;> cases entries

/-- Two bounds on an age: a lower bound is lost, and an upper bound becomes the age. -/
theorem repeated_age_bounds_disagree :
    let schema := Schema.empty.declare "age" ⟨.number, none⟩
    let bounds := [("gte", "18"), ("lte", "65")]
    "age" ∉ reservedKeys ∧ (Schema.resolve (some schema) "" "age" none).kind = .number ∧
      2 ≤ bounds.length ∧ (bounds.map Prod.fst).Nodup ∧ (∀ bound ∈ bounds, Operand.Bound bound) ∧
      (ofParams schema (Params.ofQuery (Params.spellQuery
        (bounds.map fun bound => ("age", Operand.written bound.1 bound.2))))).filter.entries =
        [("age", .int 65)] := by
  intro schema bounds
  have unreserved : "age" ∉ reservedKeys := by decide
  have number : (Schema.resolve (some schema) "" "age" none).kind = .number := by cbv
  have written : ∀ bound ∈ bounds, Operand.Bound bound := by
    simp only [bounds, List.forall_mem_cons, List.not_mem_nil, false_implies, implies_true, and_true]
    exact ⟨⟨by decide, by decide⟩, ⟨by decide, by decide⟩⟩
  obtain ⟨last, ending, lost⟩ := (repeated_bounds_keep_the_last_number schema unreserved number
    (by decide) (by decide) written).2.1
  obtain rfl : ("lte", "65") = last := Option.some.inj ending
  exact ⟨unreserved, number, by decide, by decide, written, lost⟩

/-- Repeating the key with an escaped lower and an escaped upper bound does not ask for the two bounds,
which one value with both of them does. -/
theorem repeated_age_is_the_upper_bound :
    let schema := Schema.empty.declare "age" ⟨.number, none⟩
    (ofParams schema (Params.ofQuery "age=%7Bgte%7D18&age=%7Blte%7D65")).filter.entries =
        [("age", .int 65)] ∧
      (ofParams schema (Params.ofQuery "age=%7Bgte%7D18%7Blte%7D65")).filter.entries =
        [("age", .operators [("$gte", .text "18"), ("$lte", .text "65")])] := by
  have repeated : Params.pairs "age=%7Bgte%7D18&age=%7Blte%7D65" =
      [("age", "\x7bgte\x7d18"), ("age", "\x7blte\x7d65")] := by cbv
  have together : Params.pairs "age=%7Bgte%7D18%7Blte%7D65" = [("age", "\x7bgte\x7d18\x7blte\x7d65")] := by cbv
  rw [Params.ofQuery_eq_collect, Params.ofQuery_eq_collect, repeated, together]
  refine ⟨?_, ?_⟩ <;> cbv

end Request

end ParamFilter
