import Mathlib
import ParamFilter.Proofs.FilterShapes
import ParamFilter.Proofs.FixedFilter
import ParamFilter.Proofs.InstantText

/-!
# Filters and their JSON

Dates and patterns are written as objects, beside the objects of operators, and floats that are not
finite are all written as null. Even so the JSON of a requested filter says what the filter is. The form
of a condition can be read off its JSON (`formOfJson_toJson`), because no operator has the key that
marks a date or a pattern; and within one form the JSON gives back what the condition holds, down to
the millisecond of a date.

`Alike` is what remains of equality once digits below the millisecond and the kinds of floats without
a written form are left out. It is exact: alike conditions are written alike, and others are not.
Conditions that hold JSON of the caller can look like anything and are covered only where both sides
hold it, which is the case under a combinator.
-/

namespace ParamFilter

namespace Condition

mutual

/-- Two conditions of the same form that hold the same. Dates have to agree to the millisecond, and a
float that is not finite is like any other such float. -/
def Alike : Condition → Condition → Prop
  | .bool b, .bool c => b = c
  | .int n, .int m => n = m
  | .float x, .float y => x = y ∨ (x.isFinite = false ∧ y.isFinite = false)
  | .text s, .text t => s = t
  | .date former, .date latter => former.SameMillisecond latter
  | .pattern source, .pattern other => source = other
  | .list items, .list others => ItemsAlike items others
  | .operators operands, .operators others => OperandsAlike operands others
  | .json value, .json other => value = other
  | _, _ => False

/-- Lists of the same length, with alike items. -/
def ItemsAlike : List Condition → List Condition → Prop
  | [], [] => True
  | item :: rest, other :: others => Alike item other ∧ ItemsAlike rest others
  | _, _ => False

/-- The same operators, with alike operands. -/
def OperandsAlike : List (String × Condition) → List (String × Condition) → Prop
  | [], [] => True
  | (key, operand) :: rest, (key', operand') :: rest' =>
    key = key' ∧ Alike operand operand' ∧ OperandsAlike rest rest'
  | _, _ => False

end

/-- Alike conditions have the same form. -/
theorem Alike.form_eq {former latter : Condition} (alike : former.Alike latter) :
    former.form = latter.form := by
  cases former <;> cases latter <;> first | rfl | exact alike.elim

mutual

/-- Conditions that hold no JSON of the caller, and no operator under the key that marks a date or a
pattern, at any depth. -/
def Plain : Condition → Prop
  | .list items => ItemsPlain items
  | .operators operands =>
    "$date" ∉ Keyed.keys operands ∧ "$regularExpression" ∉ Keyed.keys operands ∧
      OperandsPlain operands
  | .json _ => False
  | _ => True

/-- Whether all items of a list are plain. -/
def ItemsPlain : List Condition → Prop
  | [] => True
  | item :: rest => Plain item ∧ ItemsPlain rest

/-- Whether all operands are plain. -/
def OperandsPlain : List (String × Condition) → Prop
  | [] => True
  | (_, operand) :: rest => Plain operand ∧ OperandsPlain rest

end

theorem itemsPlain_iff {items : List Condition} : ItemsPlain items ↔ ∀ item ∈ items, item.Plain := by
  induction items with
  | nil => simp [ItemsPlain]
  | cons item rest ih => simp [ItemsPlain, ih]

theorem operandsPlain_iff {operands : List (String × Condition)} :
    OperandsPlain operands ↔ ∀ entry ∈ operands, entry.2.Plain := by
  induction operands with
  | nil => simp [OperandsPlain]
  | cons entry rest ih => simp [OperandsPlain, ih]

/-- The form of the plain condition that a JSON value was written from. -/
def formOfJson : Json → String
  | .null | .float _ => "Float"
  | .bool _ => "Bool"
  | .int _ => "Int"
  | .str _ => "Text"
  | .arr _ => "List"
  | .obj [("$date", _)] => "Date"
  | .obj [("$regularExpression", _)] => "Pattern"
  | .obj _ => "Operators"

/-- An object without the two marks is an operator object. -/
theorem formOfJson_obj {fields : List (String × Json)} (noDate : "$date" ∉ Keyed.keys fields)
    (noPattern : "$regularExpression" ∉ Keyed.keys fields) :
    formOfJson (.obj fields) = "Operators" := by
  unfold formOfJson
  split <;> simp_all [Keyed.keys]

/-- An operator object is written under the keys of its operators. -/
theorem keys_operandsToJson (operands : List (String × Condition)) :
    Keyed.keys (operandsToJson operands) = Keyed.keys operands := by
  rw [operandsToJson_eq_map, Keyed.keys, List.map_map]
  rfl

/-- The form of a plain condition can be read off its JSON. -/
theorem formOfJson_toJson {condition : Condition} (plain : condition.Plain) :
    formOfJson condition.toJson = condition.form := by
  cases condition with
  | bool b => rfl
  | int n => rfl
  | float x =>
    rw [toJson, Json.ofFloat]
    split <;> rfl
  | text s => rfl
  | date instant => rfl
  | pattern source => rfl
  | list items => rfl
  | operators operands =>
    obtain ⟨noDate, noPattern, _⟩ := plain
    rw [toJson, form, formOfJson_obj] <;> rwa [keys_operandsToJson]
  | json value => exact plain.elim

/-- Floats are written alike when they are the same, or when there is no number to write for either. -/
theorem ofFloat_eq_iff {x y : Float} :
    Json.ofFloat x = Json.ofFloat y ↔ x = y ∨ (x.isFinite = false ∧ y.isFinite = false) := by
  unfold Json.ofFloat
  by_cases same : x = y
  · simp [same]
  · cases x.isFinite <;> cases y.isFinite <;> simp [same]

mutual

/-- Plain conditions are written alike exactly when they are alike.

Two conditions of different forms are told apart by the form of their JSON. For two of one form, what
is written is what they hold; lists and operator objects are followed item by item. -/
theorem toJson_eq_iff {former latter : Condition} (plain : former.Plain) (plain' : latter.Plain) :
    former.toJson = latter.toJson ↔ former.Alike latter := by
  by_cases forms : former.form = latter.form
  · cases former <;> cases latter <;> try (simp [form] at forms; done)
    case bool.bool b c => simp [toJson, Alike]
    case int.int n m => simp [toJson, Alike]
    case float.float x y => simp only [toJson, Alike, ofFloat_eq_iff]
    case text.text s t => simp [toJson, Alike]
    case date.date former latter => simp [toJson, Alike, Instant.text_eq_iff]
    case pattern.pattern source other => simp [toJson, Alike]
    case list.list items others =>
      simp only [toJson, Alike, Json.arr.injEq]
      exact itemsToJson_eq_iff plain plain'
    case operators.operators operands others =>
      simp only [toJson, Alike, Json.obj.injEq]
      exact operandsToJson_eq_iff plain.2.2 plain'.2.2
    case json.json => exact plain.elim
  · have written : former.toJson ≠ latter.toJson := by
      intro same
      rw [← formOfJson_toJson plain, ← formOfJson_toJson plain', same] at forms
      exact forms rfl
    exact iff_of_false written fun alike => forms alike.form_eq

/-- Lists of plain conditions are written alike exactly when they are alike. -/
theorem itemsToJson_eq_iff {former latter : List Condition} (plain : ItemsPlain former)
    (plain' : ItemsPlain latter) :
    itemsToJson former = itemsToJson latter ↔ ItemsAlike former latter := by
  match former, latter with
  | [], [] => simp [itemsToJson, ItemsAlike]
  | [], _ :: _ => simp [itemsToJson, ItemsAlike]
  | _ :: _, [] => simp [itemsToJson, ItemsAlike]
  | item :: rest, item' :: rest' =>
    simp only [itemsToJson, ItemsAlike, List.cons.injEq]
    exact and_congr (toJson_eq_iff plain.1 plain'.1) (itemsToJson_eq_iff plain.2 plain'.2)

/-- Plain operands are written alike exactly when they are alike and under the same keys. -/
theorem operandsToJson_eq_iff {former latter : List (String × Condition)}
    (plain : OperandsPlain former) (plain' : OperandsPlain latter) :
    operandsToJson former = operandsToJson latter ↔ OperandsAlike former latter := by
  match former, latter with
  | [], [] => simp [operandsToJson, OperandsAlike]
  | [], _ :: _ => simp [operandsToJson, OperandsAlike]
  | _ :: _, [] => simp [operandsToJson, OperandsAlike]
  | (key, operand) :: rest, (key', operand') :: rest' =>
    simp only [operandsToJson, OperandsAlike, List.cons.injEq, Prod.mk.injEq, and_assoc]
    exact and_congr Iff.rfl
      (and_congr (toJson_eq_iff plain.1 plain'.1) (operandsToJson_eq_iff plain.2 plain'.2))

end

/-- An operand that fits its operator is plain, and its operator is none of the two marks. -/
theorem OperandFits.plain {key : String} {operand : Condition} (fits : OperandFits key operand) :
    operand.Plain ∧ key ∉ ["$date", "$regularExpression"] := by
  have noList : ∀ key ∈ listKeys ++ rangeKeys, key ∉ ["$date", "$regularExpression"] := by decide
  cases fits with
  | texts list =>
    refine ⟨itemsPlain_iff.mpr fun item member => ?_, noList _ (List.mem_append_left _ list)⟩
    obtain ⟨token, _, rfl⟩ := List.mem_map.mp member
    trivial
  | patterns list =>
    refine ⟨itemsPlain_iff.mpr fun item member => ?_, noList _ (List.mem_append_left _ list)⟩
    obtain ⟨source, _, rfl⟩ := List.mem_map.mp member
    trivial
  | rangeText range => exact ⟨trivial, noList _ (List.mem_append_right _ range)⟩
  | rangeDate range => exact ⟨trivial, noList _ (List.mem_append_right _ range)⟩
  | mod => exact ⟨⟨trivial, trivial, trivial⟩, by decide⟩
  | near => exact ⟨⟨trivial, trivial, trivial⟩, by decide⟩
  | ne => exact ⟨trivial, by decide⟩
  | not => exact ⟨trivial, by decide⟩
  | regex => exact ⟨trivial, by decide⟩
  | options => exact ⟨trivial, by decide⟩
  | maxDistance => exact ⟨trivial, by decide⟩

/-- A condition on a field is plain. -/
theorem FieldShape.plain {condition : Condition} (shape : FieldShape condition) :
    condition.Plain := by
  cases shape with
  | bool b => trivial
  | int n => trivial
  | text s => trivial
  | date instant => trivial
  | @operators operands fit =>
    have unmarked : ∀ mark ∈ ["$date", "$regularExpression"], mark ∉ Keyed.keys operands := by
      intro mark marks member
      obtain ⟨entry, held, rfl⟩ := List.mem_map.mp member
      exact (fit.fits entry held).plain.2 marks
    exact ⟨unmarked _ (by simp), unmarked _ (by simp),
      operandsPlain_iff.mpr fun entry held => (fit.fits entry held).plain.1⟩

end Condition

namespace Filter

/-- Filters with the same paths and alike conditions on each of them. -/
structure Alike (former latter : Filter) : Prop where
  paths : former.paths = latter.paths
  conditions : ∀ path held other, former.get? path = some held → latter.get? path = some other →
    held.Alike other

/-- Filters whose conditions are written alike exactly when they are alike are so themselves.

The JSON of a filter holds its paths and, under each of them, what the condition is written as. Since
both objects are in order, their look-ups are all there is to compare. -/
theorem toJson_eq_iff_alike {former latter : Filter}
    (readable : ∀ path held other, former.get? path = some held → latter.get? path = some other →
      (held.toJson = other.toJson ↔ held.Alike other)) :
    former.toJson = latter.toJson ↔ former.Alike latter := by
  constructor
  · intro same
    have members : former.members = latter.members := Json.obj.inj same
    refine ⟨by rw [← keys_members, ← keys_members, members], ?_⟩
    intro path held other found found'
    apply (readable path held other found found').mp
    have written := congrArg (List.lookup path) members
    rw [lookup_members, lookup_members, found, found'] at written
    exact Option.some.inj written
  · intro alike
    have members : former.members = latter.members := by
      apply former.ascending_members.ext latter.ascending_members
      intro path
      rw [lookup_members, lookup_members]
      have together : (former.get? path).isSome = true ↔ (latter.get? path).isSome = true := by
        rw [get?, get?, ← Keyed.mem_keys_iff, ← Keyed.mem_keys_iff]
        exact iff_of_eq (congrArg (path ∈ ·) alike.paths)
      cases found : former.get? path with
      | none =>
        have absent : latter.get? path = none := by simpa [found] using together
        rw [absent]
      | some held =>
        obtain ⟨other, found'⟩ := Option.isSome_iff_exists.mp (together.mp (by rw [found]; rfl))
        have conditions := alike.conditions path held other found found'
        rw [found', Option.map_some, Option.map_some,
          (readable path held other found found').mpr conditions]
    rw [toJson_eq_obj, toJson_eq_obj, members]

end Filter

namespace Request

/-- On one path of two requested filters, conditions are written alike exactly when they are alike. A
combinator holds JSON on both sides, and any other path a plain condition. -/
theorem EntryFits.toJson_eq_iff {schema schema' : Schema} {path : String}
    {former latter : Condition} (fits : EntryFits schema path former)
    (fits' : EntryFits schema' path latter) :
    former.toJson = latter.toJson ↔ former.Alike latter := by
  by_cases combinator : path = "$or" ∨ path = "$and"
  · obtain ⟨value, rfl, _⟩ := fits.truthy combinator
    obtain ⟨other, rfl, _⟩ := fits'.truthy combinator
    simp [Condition.toJson, Condition.Alike]
  · exact Condition.toJson_eq_iff (fits.fieldShape combinator).plain
      (fits'.fieldShape combinator).plain

/-- Requested filters are written as the same JSON exactly when they have the same paths and alike
conditions on each of them, whatever schemas and parameters they come from. -/
theorem toJson_filter_eq_iff (schema schema' : Schema) (params params' : Params) :
    (ofParams schema params).filter.toJson = (ofParams schema' params').filter.toJson ↔
      (ofParams schema params).filter.Alike (ofParams schema' params').filter := by
  apply Filter.toJson_eq_iff_alike
  intro path held other found found'
  exact EntryFits.toJson_eq_iff (fits_ofParams schema params path held found)
    (fits_ofParams schema' params' path other found')

end Request

end ParamFilter
