import Mathlib
import ParamFilter.Proofs.Slots

/-!
# The keys that reach the filter

A path is in the filter of a request for one reason only: it is the key of a parameter, and at least
one of the chunks under it could be used. What counts as usable depends on the key. A combinator
wants JSON that is not an empty value; a field wants a value of which its kind makes a condition,
where the kind is asked for anew with the operator of each chunk. The six other reserved keys never
become paths.

Chunks that cannot be used are harmless in both directions: they bring no path in and drive none
out.
-/

namespace ParamFilter

/-- A filter has the paths under which it has a condition. -/
theorem Filter.mem_paths_iff {filter : Filter} {path : String} :
    path ∈ filter.paths ↔ (filter.get? path).isSome = true :=
  Keyed.mem_keys_iff

/-- The keys that name a count or a list. They write beside the filter. -/
def directiveKeys : List String := ["page", "per_page", "limit", "skip", "sort_by", "select"]

/-- The reserved keys are those of the two combinators and of the directives. -/
theorem mem_reservedKeys_iff {key : String} :
    key ∈ reservedKeys ↔ (key = "$or" ∨ key = "$and") ∨ key ∈ directiveKeys := by
  simp only [reservedKeys, directiveKeys, List.mem_cons, or_assoc]

/-- A key owns the path of its own name unless it is the key of a directive. -/
theorem Slot.ofKey_eq_path_iff {key : String} :
    Slot.ofKey key = .path key ↔ (key = "$or" ∨ key = "$and") ∨ key ∉ reservedKeys := by
  rw [← Route.ofKey_eq_combinator_iff, ← Route.ofKey_eq_field_iff]
  cases route : Route.ofKey key <;> simp [Slot.ofKey, route]

namespace Effect

variable {schema : Schema} {key chunk : String}

/-- A combinator makes a write of every chunk that is JSON and not an empty value. -/
theorem exists_makes_combinator_iff (combinator : key = "$or" ∨ key = "$and") :
    (∃ write, Makes schema key chunk write) ↔
      chunk ≠ "" ∧ ∃ value, Json.ofText? chunk = some value ∧ value.isTruthy = true := by
  simp only [makes_combinator_iff combinator]
  constructor
  · rintro ⟨_, filled, value, parsed, truthy, _⟩
    exact ⟨filled, value, parsed, truthy⟩
  · rintro ⟨filled, value, parsed, truthy⟩
    exact ⟨_, filled, value, parsed, truthy, rfl⟩

/-- A field makes a write of every chunk that has a value of which its kind makes a condition. -/
theorem exists_makes_field_iff (unreserved : key ∉ reservedKeys) :
    (∃ write, Makes schema key chunk write) ↔
      (Operand.ofChunk chunk).value ≠ "" ∧
        (schema.condition? key (Operand.ofChunk chunk)).isSome = true := by
  simp only [makes_field_iff unreserved, Schema.chunkCondition?_eq_some_iff, Option.isSome_iff_exists]
  constructor
  · rintro ⟨_, condition, ⟨filled, coerced⟩, _⟩
    exact ⟨filled, condition, coerced⟩
  · rintro ⟨filled, condition, coerced⟩
    exact ⟨_, condition, ⟨filled, coerced⟩, rfl⟩

end Effect

/-- A key has a chunk with some property exactly when it is a parameter whose value has one. -/
theorem Params.exists_mem_chunks_iff {params : Params} {key : String} {usable : String → Prop} :
    (∃ chunk ∈ params.chunks key, usable chunk) ↔
      ∃ value, params.get? key = some value ∧ ∃ chunk ∈ Operand.chunks value, usable chunk := by
  cases held : params.get? key <;> simp [Params.chunks, held]

namespace Request

variable {schema : Schema} {params : Params} {path : String}

/-- A path of the filter is the key of a parameter that owns its path and has a chunk that makes a
write. -/
theorem mem_paths_iff_makes : path ∈ (ofParams schema params).filter.paths ↔
    Slot.ofKey path = .path path ∧
      ∃ value, params.get? path = some value ∧
        ∃ chunk ∈ Operand.chunks value, ∃ write, Effect.Makes schema path chunk write := by
  rw [Filter.mem_paths_iff, ← Params.exists_mem_chunks_iff]
  exact isSome_at?_ofParams_iff schema params (.path path)

/-- A combinator is a path when some chunk of it is JSON that is not an empty value. -/
theorem mem_paths_combinator_iff (combinator : path = "$or" ∨ path = "$and") :
    path ∈ (ofParams schema params).filter.paths ↔
      ∃ value, params.get? path = some value ∧
        ∃ chunk ∈ Operand.chunks value, chunk ≠ "" ∧
          ∃ json, Json.ofText? chunk = some json ∧ json.isTruthy = true := by
  have owned : Slot.ofKey path = .path path := Slot.ofKey_eq_path_iff.mpr (.inl combinator)
  simp only [mem_paths_iff_makes, owned, true_and, Effect.exists_makes_combinator_iff combinator]

/-- A key that is not reserved is a path when some chunk of it gives a condition. -/
theorem mem_paths_field_iff (unreserved : path ∉ reservedKeys) :
    path ∈ (ofParams schema params).filter.paths ↔
      ∃ value, params.get? path = some value ∧
        ∃ chunk ∈ Operand.chunks value, (Operand.ofChunk chunk).value ≠ "" ∧
          (schema.condition? path (Operand.ofChunk chunk)).isSome = true := by
  have owned : Slot.ofKey path = .path path := Slot.ofKey_eq_path_iff.mpr (.inr unreserved)
  simp only [mem_paths_iff_makes, owned, true_and, Effect.exists_makes_field_iff unreserved]

/-- The key of a directive is never a path, because it owns none. -/
theorem not_mem_paths_of_directive (directive : path ∈ directiveKeys) :
    path ∉ (ofParams schema params).filter.paths := by
  intro member
  have owned : Slot.ofKey path = .path path := (mem_paths_iff_makes.mp member).1
  simp only [directiveKeys, List.mem_cons, List.not_mem_nil, or_false] at directive
  rcases directive with rfl | rfl | rfl | rfl | rfl | rfl <;> cases owned

/-- A field that is of unknown kind under the operators of all its chunks is no path. -/
theorem not_mem_paths_of_unknown (unreserved : path ∉ reservedKeys)
    (unknown : ∀ value, params.get? path = some value → ∀ chunk ∈ Operand.chunks value,
      (Schema.resolve (some schema) "" path (Operand.ofChunk chunk).operator).kind = .unknown) :
    path ∉ (ofParams schema params).filter.paths := by
  intro member
  obtain ⟨value, held, chunk, chunkMember, _, coerced⟩ := (mem_paths_field_iff unreserved).mp member
  rw [Schema.condition?, unknown value held chunk chunkMember] at coerced
  cases coerced

/-- Exactly the usable keys are paths of the filter.

A key is a combinator, a field or the key of a directive, and each of the three has been settled.
The first remark leaves combinators out, because they are not looked up in the schema. -/
theorem mem_paths_ofParams_iff (schema : Schema) (params : Params) (path : String) :
    (path ∈ (ofParams schema params).filter.paths ↔
      ∃ value, params.get? path = some value ∧
        (((path = "$or" ∨ path = "$and") ∧
            ∃ chunk ∈ Operand.chunks value, chunk ≠ "" ∧
              ∃ json, Json.ofText? chunk = some json ∧ json.isTruthy = true) ∨
          (path ∉ reservedKeys ∧
            ∃ chunk ∈ Operand.chunks value, (Operand.ofChunk chunk).value ≠ "" ∧
              (schema.condition? path (Operand.ofChunk chunk)).isSome = true))) ∧
    (¬(path = "$or" ∨ path = "$and") →
      (∀ value, params.get? path = some value → ∀ chunk ∈ Operand.chunks value,
        (Schema.resolve (some schema) "" path (Operand.ofChunk chunk).operator).kind = .unknown) →
      path ∉ (ofParams schema params).filter.paths) ∧
    (path ∈ directiveKeys → path ∉ (ofParams schema params).filter.paths) := by
  by_cases unreserved : path ∉ reservedKeys
  · have noCombinator : ¬(path = "$or" ∨ path = "$and") := fun combinator =>
      unreserved (mem_reservedKeys_iff.mpr (.inl combinator))
    refine ⟨?_, fun _ => not_mem_paths_of_unknown unreserved, not_mem_paths_of_directive⟩
    rw [mem_paths_field_iff unreserved]
    simp only [noCombinator, unreserved, false_and, true_and, false_or, not_false_eq_true]
  · rcases mem_reservedKeys_iff.mp (not_not.mp unreserved) with combinator | directive
    · refine ⟨?_, fun noCombinator => absurd combinator noCombinator, not_mem_paths_of_directive⟩
      rw [mem_paths_combinator_iff combinator]
      simp only [combinator, unreserved, true_and, false_and, or_false]
    · have noPath : path ∉ (ofParams schema params).filter.paths :=
        not_mem_paths_of_directive directive
      have noCombinator : ¬(path = "$or" ∨ path = "$and") := by
        rintro (rfl | rfl) <;> exact absurd directive (by decide)
      refine ⟨?_, fun _ _ => noPath, fun _ => noPath⟩
      simp only [noPath, noCombinator, unreserved, false_and, or_self, and_false, exists_false]

/-- Of two chunks under one key the second is usable, so the key is a path. An undeclared key is
none, and the key of a directive is none although it is declared. -/
theorem ages_reach_the_filter :
    let schema := (Schema.empty.declare "age" ⟨.number, none⟩).declare "page" ⟨.number, none⟩
    let params : Params := ⟨[("age", .single "\x7bgte\x7dx\x7blte\x7d65"), ("name", .single "\x7bne\x7djo"),
      ("page", .single "2")], by decide⟩
    let paths := (ofParams schema params).filter.paths
    "age" ∈ paths ∧
      (∀ value, params.get? "name" = some value → ∀ chunk ∈ Operand.chunks value,
        (Schema.resolve (some schema) "" "name" (Operand.ofChunk chunk).operator).kind = .unknown) ∧
      "name" ∉ paths ∧ "page" ∈ directiveKeys ∧ "page" ∉ paths := by
  intro schema params paths
  have chunks : Operand.chunks (.single "\x7bgte\x7dx\x7blte\x7d65") =
      ["\x7bgte\x7dx", "\x7blte\x7d65"] := by cbv
  have usable : (schema.condition? "age" (Operand.ofChunk "\x7blte\x7d65")).isSome = true := by cbv
  have unknown : ∀ value, params.get? "name" = some value → ∀ chunk ∈ Operand.chunks value,
      (Schema.resolve (some schema) "" "name" (Operand.ofChunk chunk).operator).kind = .unknown := by
    intro value held chunk _
    rw [Schema.resolve]
    rfl
  refine ⟨?_, unknown, ?_, by decide, ?_⟩
  · refine (mem_paths_ofParams_iff schema params "age").1.mpr ⟨_, rfl, .inr ⟨by decide, ?_⟩⟩
    exact ⟨"\x7blte\x7d65", by simp [chunks], by cbv, usable⟩
  · exact (mem_paths_ofParams_iff schema params "name").2.1 (by decide) unknown
  · exact (mem_paths_ofParams_iff schema params "page").2.2 (by decide)

end Request

end ParamFilter
