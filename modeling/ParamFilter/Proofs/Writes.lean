import ParamFilter.Request

/-!
# What a chunk writes

A chunk of a parameter makes one write or none. `Makes` lists the four ways of making one, with
everything that has to hold for it: the route of the key, a value that is not empty, and a reading
of that value. `result_eq_ok_iff` says that these are all the ways and that each of them is taken.
Later statements about requests use the list and never open the routing again.
-/

namespace ParamFilter

/-- The keys that name no path of a document. -/
def reservedKeys : List String :=
  ["$or", "$and", "page", "per_page", "limit", "skip", "sort_by", "select"]

/-- The key of a count. -/
def CountKey.name : CountKey → String
  | page => "page"
  | perPage => "per_page"
  | limit => "limit"
  | skip => "skip"

/-- The key of a comma list. -/
def ListKey.name : ListKey → String
  | sort => "sort_by"
  | select => "select"

namespace Route

/-- Logical combinations come under two keys. -/
theorem ofKey_eq_combinator_iff {key : String} :
    ofKey key = .combinator ↔ key = "$or" ∨ key = "$and" := by
  unfold ofKey
  split <;> simp_all

/-- A count comes under its own key only. -/
theorem ofKey_eq_count_iff {key : String} {slot : CountKey} :
    ofKey key = .count slot ↔ key = slot.name := by
  unfold ofKey
  split <;> cases slot <;> simp_all [CountKey.name]

/-- A comma list comes under its own key only. -/
theorem ofKey_eq_commaList_iff {key : String} {slot : ListKey} :
    ofKey key = .commaList slot ↔ key = slot.name := by
  unfold ofKey
  split <;> cases slot <;> simp_all [ListKey.name]

/-- Every key that is not reserved is a path. -/
theorem ofKey_eq_field_iff {key : String} : ofKey key = .field ↔ key ∉ reservedKeys := by
  unfold ofKey
  split <;> simp_all [reservedKeys]

end Route

namespace Schema

/-- The condition that an operand of a field becomes, by the kind that the schema gives the field
under the operator of this very operand. -/
def condition? (schema : Schema) (key : String) (operand : Operand) : Option Condition :=
  Condition.ofOperand? (resolve (some schema) "" key operand.operator).kind operand.value
    operand.operator

/-- The condition that a chunk gives a field. An empty value gives none. -/
def chunkCondition? (schema : Schema) (key chunk : String) : Option Condition :=
  if (Operand.ofChunk chunk).value = "" then none else schema.condition? key (Operand.ofChunk chunk)

theorem chunkCondition?_eq_some_iff {schema : Schema} {key chunk : String} {condition : Condition} :
    schema.chunkCondition? key chunk = some condition ↔
      (Operand.ofChunk chunk).value ≠ "" ∧
        schema.condition? key (Operand.ofChunk chunk) = some condition := by
  unfold chunkCondition?
  split <;> simp_all

end Schema

namespace Effect

/-- The writes that a chunk makes under a key. A combinator takes the chunk as it stands; the other
routes take the value that is left of it without its operator. -/
inductive Makes (schema : Schema) (key chunk : String) : Write → Prop where
  | combination {value : Json} (route : Route.ofKey key = .combinator) (filled : chunk ≠ "")
      (parsed : Json.ofText? chunk = some value) (truthy : value.isTruthy = true) :
      Makes schema key chunk (.combination key value)
  | count {slot : CountKey} {n : Nat} (route : Route.ofKey key = .count slot)
      (filled : (Operand.ofChunk chunk).value ≠ "")
      (counted : Text.count? (Text.trim (Operand.ofChunk chunk).value.toList) = some n) :
      Makes schema key chunk (.count slot n)
  | commaList {slot : ListKey} (route : Route.ofKey key = .commaList slot)
      (filled : (Operand.ofChunk chunk).value ≠ "") :
      Makes schema key chunk (.commaList slot (Sort.directive (Operand.ofChunk chunk).value))
  | condition {condition : Condition} (route : Route.ofKey key = .field)
      (given : schema.chunkCondition? key chunk = some condition) :
      Makes schema key chunk (.condition key condition)

/-- The listed writes are made. -/
theorem result_of_makes {schema : Schema} {key chunk : String} {write : Write}
    (made : Makes schema key chunk write) : (ofChunk schema key chunk).result = .ok write := by
  cases made with
  | combination route filled parsed truthy =>
    simp [ofChunk, route, Operand.verbatim, filled, ofCombinator, parsed, truthy, written]
  | count route filled counted =>
    simp [ofChunk, route, filled, ofCount, counted, written]
  | commaList route filled => simp [ofChunk, route, filled, written]
  | condition route given =>
    obtain ⟨filled, coerced⟩ := Schema.chunkCondition?_eq_some_iff.mp given
    rw [Schema.condition?] at coerced
    simp [ofChunk, route, filled, ofField, coerced]

/-- No other write is made. The cases are the routes, and on each of them the ways to pass a chunk
over are taken out one by one. -/
theorem makes_of_result {schema : Schema} {key chunk : String} {write : Write}
    (made : (ofChunk schema key chunk).result = .ok write) : Makes schema key chunk write := by
  cases route : Route.ofKey key with
  | combinator =>
    by_cases empty : chunk = ""
    · simp [ofChunk, route, Operand.verbatim, empty, passedOver] at made
    · cases parsed : Json.ofText? chunk with
      | none => simp [ofChunk, route, Operand.verbatim, empty, ofCombinator, parsed, passedOver] at made
      | some value =>
        by_cases truthy : value.isTruthy = true
        · have same : Write.combination key value = write := by
            simpa [ofChunk, route, Operand.verbatim, empty, ofCombinator, parsed, truthy, written]
              using made
          exact same ▸ .combination route empty parsed truthy
        · simp [ofChunk, route, Operand.verbatim, empty, ofCombinator, parsed, truthy,
            passedOver] at made
  | count slot =>
    by_cases empty : (Operand.ofChunk chunk).value = ""
    · simp [ofChunk, route, empty, passedOver] at made
    · cases counted : Text.count? (Text.trim (Operand.ofChunk chunk).value.toList) with
      | none => simp [ofChunk, route, empty, ofCount, counted, passedOver] at made
      | some n =>
        have same : Write.count slot n = write := by
          simpa [ofChunk, route, empty, ofCount, counted, written] using made
        exact same ▸ .count route empty counted
  | commaList slot =>
    by_cases empty : (Operand.ofChunk chunk).value = ""
    · simp [ofChunk, route, empty, passedOver] at made
    · have same : Write.commaList slot (Sort.directive (Operand.ofChunk chunk).value) = write := by
        simpa [ofChunk, route, empty, written] using made
      exact same ▸ .commaList route empty
  | field =>
    by_cases empty : (Operand.ofChunk chunk).value = ""
    · simp [ofChunk, route, empty, passedOver] at made
    · cases coerced : schema.condition? key (Operand.ofChunk chunk) with
      | none =>
        rw [Schema.condition?] at coerced
        simp [ofChunk, route, empty, ofField, coerced] at made
      | some condition =>
        have given : schema.chunkCondition? key chunk = some condition :=
          Schema.chunkCondition?_eq_some_iff.mpr ⟨empty, coerced⟩
        have same : Write.condition key condition = write := by
          rw [Schema.condition?] at coerced
          simpa [ofChunk, route, empty, ofField, coerced] using made
        exact same ▸ .condition route given

/-- A chunk makes exactly the listed writes. -/
theorem result_eq_ok_iff {schema : Schema} {key chunk : String} {write : Write} :
    (ofChunk schema key chunk).result = .ok write ↔ Makes schema key chunk write :=
  ⟨makes_of_result, result_of_makes⟩

/-- Under a combinator the only write puts JSON that is not an empty value. -/
theorem makes_combinator_iff {schema : Schema} {key chunk : String} {write : Write}
    (combinator : key = "$or" ∨ key = "$and") :
    Makes schema key chunk write ↔
      chunk ≠ "" ∧ ∃ value, Json.ofText? chunk = some value ∧ value.isTruthy = true ∧
        write = .combination key value := by
  have route : Route.ofKey key = .combinator := Route.ofKey_eq_combinator_iff.mpr combinator
  constructor
  · intro made
    cases made with
    | combination _ filled parsed truthy => exact ⟨filled, _, parsed, truthy, rfl⟩
    | count other => cases route.symm.trans other
    | commaList other => cases route.symm.trans other
    | condition other => cases route.symm.trans other
  · rintro ⟨filled, value, parsed, truthy, rfl⟩
    exact .combination route filled parsed truthy

/-- Under a key that is not reserved the only write adds the condition of the chunk. -/
theorem makes_field_iff {schema : Schema} {key chunk : String} {write : Write}
    (unreserved : key ∉ reservedKeys) :
    Makes schema key chunk write ↔
      ∃ condition, schema.chunkCondition? key chunk = some condition ∧
        write = .condition key condition := by
  have route : Route.ofKey key = .field := Route.ofKey_eq_field_iff.mpr unreserved
  constructor
  · intro made
    cases made with
    | condition _ given => exact ⟨_, given, rfl⟩
    | combination other => cases route.symm.trans other
    | count other => cases route.symm.trans other
    | commaList other => cases route.symm.trans other
  · rintro ⟨condition, given, rfl⟩
    exact .condition route given

end Effect

end ParamFilter
