import Mathlib
import ParamFilter.Proofs.WrittenOperands

/-!
# Rows of bounds

Bounds on one field are written in a row, `{gte}18{lte}65`. This module follows such a row through the
coercion of its kind and through merging, for numbers, dates and texts alike. Each bound whose value
the kind can use becomes an operator of its own; the others are passed over. No bound is read as a
literal, which would replace everything that was merged before it: a number is none under a comparison,
a date under an operator that compares by order, and a text under such an operator if it is a run of
digits. So what comes out is one operator object, or nothing.

Lists, and values with braces of their own, are no bounds here.
-/

namespace ParamFilter

namespace Condition

/-- No two operators have the same key. -/
theorem operatorKey_injective : Function.Injective operatorKey := by
  intro name other same
  simpa [operatorKey] using same

/-- Distinct operators have distinct keys, whatever their operands are. -/
theorem nodup_operatorKeys {α : Type} {operand : String × α → Condition} {operators : List (String × α)}
    (distinct : (operators.map Prod.fst).Nodup) :
    (Keyed.keys (operators.map fun operator => (operatorKey operator.1, operand operator))).Nodup := by
  have keys : Keyed.keys (operators.map fun operator => (operatorKey operator.1, operand operator)) =
      (operators.map Prod.fst).map operatorKey := by
    simp [Keyed.keys]
  rw [keys]
  exact distinct.map operatorKey_injective

/-- The operators by which a field of a kind is bounded. -/
def boundOperators : Kind → List String
  | .number => comparisons
  | .date | .string => rangeOperators
  | _ => []

/-- What a bound on a field of a kind compares with, if the kind can use its value. -/
def boundOperand? (kind : Kind) (value : String) : Option Condition :=
  match kind with
  | .number => if value.toList.any Char.isDigit then some (.text value) else none
  | .date => (Instant.ofText? value).map .date
  | .string => some (.text value)
  | _ => none

/-- The bounds that the kind of a field can use, with what they compare with. -/
def usableBounds (kind : Kind) (bounds : List (String × String)) : List (String × Condition) :=
  bounds.filterMap fun bound => (boundOperand? kind bound.2).map (bound.1, ·)

/-- The operators of the usable bounds are operators of the bounds, in their order. -/
theorem sublist_usableBounds (kind : Kind) (bounds : List (String × String)) :
    ((usableBounds kind bounds).map Prod.fst).Sublist (bounds.map Prod.fst) := by
  induction bounds with
  | nil => exact .refl _
  | cons bound rest ih =>
    cases usable : boundOperand? kind bound.2 with
    | none =>
      rw [usableBounds, List.filterMap_cons_none (by rw [usable]; rfl)]
      exact ih.cons _
    | some operand =>
      rw [usableBounds, List.filterMap_cons_some (by rw [usable]; rfl)]
      exact ih.cons_cons _

end Condition

namespace Operand

/-- A bound on a field of a kind, as it may stand among others in one value. The value is on the line of
its operator, has no braces and is no list; of a text it is a run of digits. -/
structure BoundOn (kind : Kind) (bound : String × String) : Prop where
  compares : bound.1 ∈ Condition.boundOperators kind
  filled : bound.2 ≠ ""
  sameLine : bound.2.toList.head? ≠ some '\n'
  plain : ∀ c ∈ bound.2.toList, isBrace c = false
  single : ',' ∉ bound.2.toList
  digits : kind = .string → Text.isDigits bound.2.toList = true

/-- Bounds can be checked. -/
instance (kind : Kind) (bound : String × String) : Decidable (BoundOn kind bound) :=
  decidable_of_iff (bound.1 ∈ Condition.boundOperators kind ∧ bound.2 ≠ "" ∧
      bound.2.toList.head? ≠ some '\n' ∧ bound.2.toList.all (!isBrace ·) = true ∧
      bound.2.toList.contains ',' = false ∧ (kind = .string → Text.isDigits bound.2.toList = true))
    ⟨fun ⟨compares, filled, sameLine, plain, single, digits⟩ =>
        ⟨compares, filled, sameLine, by simpa using plain, by simpa using single, digits⟩,
      fun ⟨compares, filled, sameLine, plain, single, digits⟩ =>
        ⟨compares, filled, sameLine, by simpa using plain, by simpa using single, digits⟩⟩

variable {kind : Kind} {bound : String × String}

/-- The operators of bounds are words, and none of them asks for a place. -/
theorem BoundOn.name_is_word (written : BoundOn kind bound) :
    bound.1.toList ≠ [] ∧ (∀ c ∈ bound.1.toList, isWordChar c = true) ∧
      bound.1 ≠ Schema.nearOperator := by
  have names : (Condition.boundOperators kind).all (fun name =>
      !name.toList.isEmpty && name.toList.all isWordChar && name != Schema.nearOperator) = true := by
    cases kind <;> decide
  simpa [and_assoc] using List.all_eq_true.mp names bound.1 written.compares

/-- A bound can be told apart into its two parts once it is written. -/
theorem BoundOn.writable (written : BoundOn kind bound) :
    Writable bound.1.toList bound.2.toList where
  named := written.name_is_word.1
  word := written.name_is_word.2.1
  filled := fun empty => written.filled (String.toList_eq_nil_iff.mp empty)
  sameLine := written.sameLine
  plain := written.plain

end Operand

/-- A bound becomes its operator, with what it compares with; no kind reads it as a literal. -/
theorem Condition.ofOperand?_bound {kind : Kind} {bound : String × String}
    (written : Operand.BoundOn kind bound) :
    ofOperand? kind bound.2 (some bound.1) = (boundOperand? kind bound.2).map (operator bound.1) := by
  have noList : isList bound.2 = false := by simpa [isList] using written.single
  have compares := written.compares
  cases kind with
  | number =>
    have known : bound.1 ∈ comparisons := compares
    cases someDigit : bound.2.toList.any Char.isDigit with
    | false => simp [ofOperand?, ofNumber?, boundOperand?, someDigit]
    | true => simp [ofOperand?, ofNumber?, boundOperand?, someDigit, noList, known]
  | date =>
    have known : bound.1 ∈ rangeOperators := compares
    simp [ofOperand?, ofDate?, boundOperand?, under, known, Function.comp_def]
  | string =>
    have known : bound.1 ∈ rangeOperators := compares
    simp [ofOperand?, ofString, boundOperand?, under, known, noList, written.digits rfl]
  | _ => cases compares

/-- On a field that resolves to the kind of its bounds, each bound gives its operator. -/
theorem Schema.filterMap_condition?_bounds {schema : Schema} {key : String} {kind : Kind}
    (resolved : (resolve (some schema) "" key none).kind = kind) {bounds : List (String × String)}
    (written : ∀ bound ∈ bounds, Operand.BoundOn kind bound) :
    (bounds.filterMap fun bound => schema.condition? key ⟨some bound.1, bound.2⟩) =
      (Condition.usableBounds kind bounds).map
        fun operator => Condition.operator operator.1 operator.2 := by
  rw [Condition.usableBounds, List.map_filterMap]
  apply List.filterMap_congr
  intro bound member
  have bounded := written bound member
  have elsewhere : some bound.1 ≠ some nearOperator :=
    fun same => bounded.name_is_word.2.2 (Option.some.inj same)
  rw [condition?, kind_resolve_of_ne_near elsewhere, resolved, Condition.ofOperand?_bound bounded,
    Option.map_map]
  rfl

namespace Filter

/-- Of two conditions that are set on one path the second counts. -/
theorem set_set (filter : Filter) (path : String) (former latter : Condition) :
    (filter.set path former).set path latter = filter.set path latter := by
  apply ext_get?
  intro asked
  by_cases same : asked = path
  · subst same
    rw [get?_set_self, get?_set_self]
  · rw [get?_set_of_ne _ same, get?_set_of_ne _ same, get?_set_of_ne _ same]

/-- Merging operators one by one onto an operator object unites it with all of them.

Induct over the operators. Each is put into the object, which is the step of the union. -/
theorem foldl_merge_operator (filter : Filter) (path : String) (held : List (String × Condition))
    (operators : List (String × Condition)) :
    (operators.map fun operator => Condition.operator operator.1 operator.2).foldl (·.merge path ·)
        (filter.set path (.operators held)) =
      filter.set path (.operators
        (Keyed.union held (operators.map fun operator => (Condition.operatorKey operator.1, operator.2)))) := by
  induction operators generalizing held with
  | nil => rfl
  | cons operator rest ih =>
    have merged : (filter.set path (.operators held)).merge path
        (Condition.operator operator.1 operator.2) =
        filter.set path (.operators
          (Keyed.insert (Condition.operatorKey operator.1) operator.2 held)) := by
      rw [merge, get?_set_self, set_set]
      rfl
    rw [List.map_cons, List.foldl_cons, merged, ih]
    rfl

/-- Operators that are merged onto a free path are all there. -/
theorem foldl_merge_operator_empty (path : String) {operators : List (String × Condition)}
    (present : operators ≠ []) :
    (operators.map fun operator => Condition.operator operator.1 operator.2).foldl (·.merge path ·)
        empty =
      empty.set path (.operators
        (Keyed.ofList (operators.map fun operator => (Condition.operatorKey operator.1, operator.2)))) := by
  obtain ⟨first, rest, rfl⟩ := List.exists_cons_of_ne_nil present
  exact foldl_merge_operator empty path [(Condition.operatorKey first.1, first.2)] rest

end Filter

/-- The parameters of one field whose value is a row of operands. -/
def Params.row (key : String) (operands : List (String × String)) : Params :=
  ofList [(key, .single (String.join (operands.map fun operand =>
    Operand.written operand.1 operand.2)))]

namespace Request

variable (schema : Schema) {key : String} {kind : Kind}

/-- A row of bounds asks for the operators of the usable ones, merged one by one. -/
theorem filter_ofParams_row (unreserved : key ∉ reservedKeys)
    (resolved : (Schema.resolve (some schema) "" key none).kind = kind)
    {bounds : List (String × String)} (written : ∀ bound ∈ bounds, Operand.BoundOn kind bound) :
    (ofParams schema (Params.row key bounds)).filter =
      ((Condition.usableBounds kind bounds).map fun operator =>
        Condition.operator operator.1 operator.2).foldl (·.merge key ·) .empty := by
  have writable : ∀ bound ∈ bounds, Operand.Writable bound.1.toList bound.2.toList :=
    fun bound member => (written bound member).writable
  rw [Params.row, ofParams_field schema unreserved]
  by_cases present : bounds = []
  · -- A row without bounds is an empty value, which is passed over.
    subst present
    have chunk : Operand.chunks (.single "") = [""] := by simp [Operand.chunks]
    have nothing : schema.chunkCondition? key "" = none := rfl
    have value : String.join (([] : List (String × String)).map fun operand =>
      Operand.written operand.1 operand.2) = "" := rfl
    rw [value, chunk, List.filterMap_cons_none nothing]
    rfl
  · rw [← String.empty_append (s := String.join _), Operand.chunks_written (by simp) present writable,
      schema.filterMap_chunkCondition?_written key writable,
      Schema.filterMap_condition?_bounds resolved written]

end Request

end ParamFilter
