import Mathlib
import ParamFilter.Proofs.GroupScan
import ParamFilter.Proofs.JsonBraces

/-!
# Combinations as they are written

The value of `$or` and `$and` is JSON, and operators are not taken out of it, because its braces are
its own. But it is cut into chunks before, like any other value. Where the scan finds no group the whole
value is one chunk, and the combination stands as it was written. Where it finds one, the chunks begin
with a brace and a name, as no JSON does, so all of them are passed over and the combination is lost.

JSON has braces in front of a name between quotes only. A combination in whose texts and keys no opening
brace is written is therefore safe.
-/

namespace ParamFilter

/-- JSON without a brace in its texts and keys holds no group. -/
theorem Operand.not_holdsGroup_of_ofText? {text : String} {value : Json}
    (read : Json.ofText? text = some value) (clean : Json.quotesBrace false text.toList = false) :
    ¬HoldsGroup text.toList := by
  rintro ⟨tail, suffix, name, c, behind, rfl, named, word, _⟩
  obtain ⟨first, others, rfl⟩ := List.exists_cons_of_ne_nil named
  have other : isWordChar first = false :=
    Json.nameless_of_ofText? read clean first (others ++ '\x7d' :: c :: behind) suffix
  cases other.symm.trans (word first List.mem_cons_self)

namespace Request

variable (schema : Schema) {key text : String}

/-- A group under a combinator is passed over. -/
theorem step_group_of_combinator (combinator : key = "$or" ∨ key = "$and") {group : List Char}
    (member : group ∈ Operand.groups text.toList) (request : Request) :
    step schema request (key, String.ofList group) = request := by
  apply step_of_not_makes
  intro write made
  obtain ⟨_, value, read, _⟩ := (Effect.makes_combinator_iff combinator).mp made
  obtain ⟨c, more, rfl, word⟩ := Operand.exists_of_mem_groups member
  cases (Json.ofText?_of_name word more).symm.trans read

/-- A combination without a group stands as it was written. -/
theorem ofParams_combination (combinator : key = "$or" ∨ key = "$and") {value : Json}
    (read : Json.ofText? text = some value) (truthy : value.isTruthy = true)
    (whole : Operand.groups text.toList = []) :
    ofParams schema (Params.ofList [(key, .single text)]) =
      { filter := Filter.empty.set key (.json value) } := by
  have filled : text ≠ "" := by
    rintro rfl
    cases read
  have made : Effect.Makes schema key text (.combination key value) :=
    (Effect.makes_combinator_iff combinator).mpr ⟨filled, value, read, truthy, rfl⟩
  have chunks : Operand.chunks (.single text) = [text] := by simp [Operand.chunks, whole]
  rw [ofParams, Params.operands_ofList_singleton, chunks]
  exact step_of_makes schema made {}

/-- A combination with a group is lost.

The chunks of the value are its groups, and each of them is passed over. -/
theorem ofParams_combination_cut (combinator : key = "$or" ∨ key = "$and")
    (cut : Operand.groups text.toList ≠ []) :
    ofParams schema (Params.ofList [(key, .single text)]) = {} := by
  rw [ofParams, Params.operands_ofList_singleton, Operand.chunks_single_of_groups cut, List.map_map]
  apply foldl_step_of_idle
  intro operand member
  obtain ⟨group, found, rfl⟩ := List.mem_map.mp member
  exact step_group_of_combinator schema combinator found {}

/-- A combination is taken as a whole or not at all. It is lost exactly if a group starts somewhere in
it, which can only happen if an opening brace is written in one of its texts or keys. -/
theorem combination_whole_or_lost (combinator : key = "$or" ∨ key = "$and") {value : Json}
    (read : Json.ofText? text = some value) (truthy : value.isTruthy = true) :
    let request := ofParams schema (Params.ofList [(key, .single text)])
    let whole : Request := { filter := Filter.empty.set key (.json value) }
    (request = whole ↔ ¬Operand.HoldsGroup text.toList) ∧
      (request = {} ↔ Operand.HoldsGroup text.toList) ∧
      (Json.quotesBrace false text.toList = false → request = whole) := by
  intro request whole
  have stands : ¬Operand.HoldsGroup text.toList → request = whole := fun plain =>
    ofParams_combination schema combinator read truthy (Operand.groups_eq_nil_iff.mpr plain)
  have lost : Operand.HoldsGroup text.toList → request = {} := fun holds =>
    ofParams_combination_cut schema combinator
      fun none => Operand.groups_eq_nil_iff.mp none holds
  have apart : whole ≠ {} := by
    intro same
    have entries := congrArg (fun request : Request => request.filter.entries) same
    cases entries
  have wholeIff : request = whole ↔ ¬Operand.HoldsGroup text.toList := by
    constructor
    · intro same holds
      exact apart (same.symm.trans (lost holds))
    · exact stands
  have lostIff : request = {} ↔ Operand.HoldsGroup text.toList := by
    constructor
    · intro empty
      by_contra plain
      exact apart ((stands plain).symm.trans empty)
    · exact lost
  refine ⟨wholeIff, lostIff, ?_⟩
  intro clean
  exact stands (Operand.not_holdsGroup_of_ofText? read clean)

/-- A rating under `$or` has braces of its own and stands. -/
theorem rating_stands :
    let text := "[\x7b\"rating\": \x7b\"$gte\": 4\x7d\x7d]"
    let value := Json.arr [.obj [("rating", .obj [("$gte", .int 4)])]]
    Json.ofText? text = some value ∧ value.isTruthy = true ∧
      (ofParams .empty (Params.ofList [("$or", .single text)])).filter.entries =
        [("$or", .json value)] := by
  intro text value
  have read : Json.ofText? text = some value := by cbv
  have truthy : value.isTruthy = true := rfl
  have stands := (combination_whole_or_lost .empty (.inl rfl) read truthy).2.2 (by decide)
  exact ⟨read, truthy, by rw [stands]; rfl⟩

/-- A name with a word in braces, in JSON that is well formed, makes the combination disappear. -/
theorem braced_name_is_lost :
    let text := "[\x7b\"name\":\"\x7bvip\x7dyes\"\x7d]"
    let value := Json.arr [.obj [("name", .str "\x7bvip\x7dyes")]]
    Json.ofText? text = some value ∧ value.isTruthy = true ∧
      (ofParams .empty (Params.ofList [("$or", .single text)])).filter.entries = [] := by
  refine ⟨?_, rfl, ?_⟩ <;> cbv

end Request

end ParamFilter
