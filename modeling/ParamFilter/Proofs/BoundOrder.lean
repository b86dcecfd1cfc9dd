import Mathlib
import ParamFilter.Proofs.BoundRows

/-!
# Bounds in any order

The bounds on a field may be written in any order. Each usable one becomes an operator of its own, and
operators are merged by their keys, so what stands first in the row makes no difference to the filter.
A bound whose value the kind cannot use is passed over wherever it stands. Operators that are written
twice are not a matter of this module: of these the last one counts.
-/

namespace ParamFilter

namespace Keyed

variable {α : Type}

/-- Putting in an entry under a new key adds that entry and loses none. -/
theorem perm_insert {key : String} (value : α) {entries : List (String × α)}
    (fresh : key ∉ keys entries) : (insert key value entries).Perm ((key, value) :: entries) := by
  induction entries with
  | nil => exact .refl _
  | cons entry rest ih =>
    obtain ⟨held, old⟩ := entry
    have other : key ≠ held := List.ne_of_not_mem_cons fresh
    have inserted := ih (List.not_mem_of_not_mem_cons fresh)
    simp only [insert, if_neg other]
    split
    · exact .refl _
    · exact (inserted.cons _).trans (.swap _ _ _)

/-- A union of entries under distinct keys holds all of them. -/
theorem perm_union {entries incoming : List (String × α)}
    (distinct : (keys (incoming ++ entries)).Nodup) :
    (union entries incoming).Perm (incoming ++ entries) := by
  induction incoming generalizing entries with
  | nil => exact .refl _
  | cons entry rest ih =>
    have moved : (rest ++ entry :: entries).Perm (entry :: rest ++ entries) := List.perm_middle
    have distinct' : (keys (rest ++ entry :: entries)).Nodup :=
      (moved.map Prod.fst).nodup_iff.mpr distinct
    have fresh : entry.1 ∉ keys entries := fun held =>
      (List.nodup_cons.mp distinct).1
        (List.map_subset Prod.fst (List.subset_append_right rest entries) held)
    have inserted := (perm_insert entry.2 fresh).append_left rest
    have united := ih ((inserted.map Prod.fst).nodup_iff.mpr distinct')
    exact (united.trans inserted).trans moved

/-- Entries under distinct keys are all there once they are in order. -/
theorem perm_ofList {entries : List (String × α)} (distinct : (keys entries).Nodup) :
    (ofList entries).Perm entries := by
  have appended : (keys (entries ++ [])).Nodup := by rwa [List.append_nil]
  have all := perm_union appended
  rwa [List.append_nil] at all

/-- The order in which entries under distinct keys are put in makes no difference. -/
theorem ofList_eq_of_perm {entries reordered : List (String × α)} (distinct : (keys entries).Nodup)
    (same : reordered.Perm entries) : ofList reordered = ofList entries := by
  have distinct' : (keys reordered).Nodup := (same.map Prod.fst).nodup_iff.mpr distinct
  have all : (ofList reordered).Perm (ofList entries) :=
    (perm_ofList distinct').trans (same.trans (perm_ofList distinct).symm)
  exact all.eq_of_pairwise (fun _ _ _ _ below above => absurd above (String.lt_asymm below))
    (ascending_ofList reordered) (ascending_ofList entries)

end Keyed

/-- The bounds that can be used do not depend on the order in which all of them are written. -/
theorem Condition.perm_usableBounds (kind : Kind) {bounds reordered : List (String × String)}
    (same : reordered.Perm bounds) :
    (usableBounds kind reordered).Perm (usableBounds kind bounds) :=
  same.filterMap _

namespace Filter

/-- The order in which distinct operators are merged onto a free path makes no difference. -/
theorem foldl_merge_operator_of_perm (path : String) {operators reordered : List (String × Condition)}
    (distinct : (operators.map Prod.fst).Nodup) (same : reordered.Perm operators) :
    (reordered.map fun operator => Condition.operator operator.1 operator.2).foldl (·.merge path ·)
        empty =
      (operators.map fun operator => Condition.operator operator.1 operator.2).foldl (·.merge path ·)
        empty := by
  by_cases present : operators = []
  · subst present
    rw [same.eq_nil]
  · have present' : reordered ≠ [] := fun none => present (List.nil_perm.mp (none ▸ same))
    rw [foldl_merge_operator_empty path present', foldl_merge_operator_empty path present,
      Keyed.ofList_eq_of_perm (Condition.nodup_operatorKeys distinct) (same.map _)]

end Filter

namespace Request

/-- The bounds on a field may be written in any order.

Let the bounds have distinct operators, which the kind of the field compares by, and values that can
be told apart in a row. Written in whatever order, they give the same filter. The filter is empty if
the kind can use none of the values. Otherwise it has one entry, on the path of the field, which is
an operator object with exactly one operand for each usable bound. -/
theorem bounds_in_any_order (schema : Schema) {key : String} {kind : Kind}
    (unreserved : key ∉ reservedKeys)
    (resolved : (Schema.resolve (some schema) "" key none).kind = kind)
    {bounds reordered : List (String × String)} (distinct : (bounds.map Prod.fst).Nodup)
    (written : ∀ bound ∈ bounds, Operand.BoundOn kind bound) (same : reordered.Perm bounds) :
    let usable := Condition.usableBounds kind bounds
    let filter := (ofParams schema (Params.row key bounds)).filter
    (ofParams schema (Params.row key reordered)).filter = filter ∧
      (usable = [] → filter.entries = []) ∧
      (usable ≠ [] → ∃ operands, filter.entries = [(key, .operators operands)] ∧
        operands.Perm (usable.map fun operator => (Condition.operatorKey operator.1, operator.2))) := by
  intro usable filter
  have distinct' : (usable.map Prod.fst).Nodup :=
    distinct.sublist (Condition.sublist_usableBounds kind bounds)
  have merged : filter = (usable.map fun operator =>
      Condition.operator operator.1 operator.2).foldl (·.merge key ·) .empty :=
    filter_ofParams_row schema unreserved resolved written
  refine ⟨?_, fun none => ?_, fun present => ?_⟩
  · have written' : ∀ bound ∈ reordered, Operand.BoundOn kind bound :=
      fun bound member => written bound (same.mem_iff.mp member)
    rw [merged, filter_ofParams_row schema unreserved resolved written']
    exact Filter.foldl_merge_operator_of_perm key distinct' (Condition.perm_usableBounds kind same)
  · rw [merged, none]
    rfl
  · rw [Filter.foldl_merge_operator_empty key present] at merged
    exact ⟨_, by rw [merged]; rfl, Keyed.perm_ofList (Condition.nodup_operatorKeys distinct')⟩

/-- Three bounds on an age, one of them without a digit, give two operators also in reverse order. -/
theorem age_bounds_in_reverse :
    let schema := Schema.empty.declare "age" ⟨.number, none⟩
    let bounds := [("gte", "18"), ("ne", "none"), ("lt", "65y")]
    "age" ∉ reservedKeys ∧ (Schema.resolve (some schema) "" "age" none).kind = .number ∧
      (bounds.map Prod.fst).Nodup ∧ (∀ bound ∈ bounds, Operand.BoundOn .number bound) ∧
      (ofParams schema (Params.row "age" bounds.reverse)).filter.entries =
        [("age", .operators [("$gte", .text "18"), ("$lt", .text "65y")])] := by
  intro schema bounds
  have unreserved : "age" ∉ reservedKeys := by decide
  have number : (Schema.resolve (some schema) "" "age" none).kind = .number := by cbv
  have distinct : (bounds.map Prod.fst).Nodup := by decide
  have written : ∀ bound ∈ bounds, Operand.BoundOn .number bound := by decide
  have same := (bounds_in_any_order schema unreserved number distinct written
    (List.reverse_perm bounds)).1
  refine ⟨unreserved, number, distinct, written, ?_⟩
  rw [same, filter_ofParams_row schema unreserved number written]
  cbv

end Request

end ParamFilter
