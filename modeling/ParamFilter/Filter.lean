import ParamFilter.Condition

/-!
# Filters

A filter holds at most one condition for each path, in the order of the paths. Three operations write to
it: merging unites operator objects, setting replaces, and laying one filter over another replaces path
by path. Each of them changes the paths it names and no other.
-/

namespace ParamFilter

/-- Conditions by path, in the order of the paths. -/
structure Filter where
  entries : List (String × Condition)
  ascending : Keyed.Ascending entries

namespace Filter

/-- The filter that demands nothing. -/
def empty : Filter := ⟨[], Keyed.ascending_nil⟩

/-- The condition on a path. -/
def get? (filter : Filter) (path : String) : Option Condition := filter.entries.lookup path

/-- The paths in order. -/
def paths (filter : Filter) : List String := Keyed.keys filter.entries

/-- How many paths there are. -/
def size (filter : Filter) : Nat := filter.entries.length

/-- Puts a condition on a path, whatever was there. -/
def set (filter : Filter) (path : String) (condition : Condition) : Filter :=
  ⟨Keyed.insert path condition filter.entries, filter.ascending.insert path condition⟩

/-- Adds a condition to a path. Operators are added to the operators that are there; anything else
    replaces what is there. -/
def merge (filter : Filter) (path : String) (condition : Condition) : Filter :=
  filter.set path <| match filter.get? path with
    | some held => held.mergeOver condition
    | none => condition

/-- Lays a filter over another, so that its conditions replace those on the same paths. -/
def overlay (filter upper : Filter) : Filter :=
  ⟨Keyed.union filter.entries upper.entries, filter.ascending.union upper.entries⟩

/-- The fields of a JSON object as conditions brought along by the caller. -/
def ofFields (fields : List (String × Json)) : Filter :=
  ⟨(Keyed.ofList fields).map fun field => (field.1, Condition.json field.2),
    (Keyed.ascending_ofList fields).map fun field => Condition.json field.2⟩

/-- A filter as JSON. -/
def toJson (filter : Filter) : Json := .obj (Condition.operandsToJson filter.entries)

/-- Filters with the same conditions are the same. -/
theorem ext_get? {left right : Filter} (same : ∀ path, left.get? path = right.get? path) :
    left = right := by
  obtain ⟨entries, ascending⟩ := left
  obtain ⟨entries', ascending'⟩ := right
  have equal : entries = entries' := ascending.ext ascending' same
  subst equal
  rfl

@[simp] theorem get?_empty (path : String) : empty.get? path = none := rfl

@[simp] theorem get?_set_self (filter : Filter) (path : String) (condition : Condition) :
    (filter.set path condition).get? path = some condition :=
  Keyed.lookup_insert_self path condition filter.entries

theorem get?_set_of_ne (filter : Filter) {path other : String} (different : other ≠ path)
    (condition : Condition) : (filter.set path condition).get? other = filter.get? other :=
  Keyed.lookup_insert_of_ne different condition filter.entries

end Filter

end ParamFilter
