import Mathlib
import ParamFilter.Plan

/-!
# Fixed filters

A fixed filter belongs to the caller and not to the request. It is given as a JSON object, and what
matters is the JSON that the filter of the plan becomes. Laid over the requested filter, every member
of the object is there with its own value, as a whole: no operator of the request is added to it, and
the combinators are no exception. The request decides about the other paths only. Standing in place
of the requested filter, the object is the whole filter.

The proofs go through look-ups. A filter and its JSON hold the same paths, an overlay answers from
its upper side first, and a filter made of JSON is written as that JSON.
-/

namespace ParamFilter

namespace Condition

/-- The operands of an operator object are written one by one, each under its own key. -/
theorem operandsToJson_eq_map (operands : List (String × Condition)) :
    operandsToJson operands = operands.map fun operand => (operand.1, toJson operand.2) := by
  induction operands with
  | nil => rfl
  | cons operand rest ih => rw [operandsToJson, ih, List.map_cons]

/-- JSON that the caller brought along is written as it is. -/
theorem operandsToJson_map_json (fields : List (String × Json)) :
    operandsToJson (fields.map fun field => (field.1, .json field.2)) = fields := by
  rw [operandsToJson_eq_map, List.map_map]
  exact List.map_id fields

end Condition

namespace Filter

/-- The members of a filter as JSON. -/
def members (filter : Filter) : List (String × Json) := Condition.operandsToJson filter.entries

theorem toJson_eq_obj (filter : Filter) : filter.toJson = .obj filter.members := rfl

/-- The JSON of a filter keeps the order of the paths. -/
theorem ascending_members (filter : Filter) : Keyed.Ascending filter.members := by
  rw [members, Condition.operandsToJson_eq_map]
  exact filter.ascending.map fun entry => entry.2.toJson

/-- The JSON of a filter has under each path what its condition is written as. -/
theorem lookup_members (filter : Filter) (path : String) :
    filter.members.lookup path = (filter.get? path).map Condition.toJson := by
  rw [members, Condition.operandsToJson_eq_map]
  exact Keyed.lookup_map Condition.toJson filter.entries path

/-- Writing a filter as JSON keeps its paths. -/
theorem keys_members (filter : Filter) : Keyed.keys filter.members = filter.paths := by
  rw [members, Condition.operandsToJson_eq_map, Keyed.keys, List.map_map]
  rfl

/-- A filter laid over another answers first. -/
theorem get?_overlay (filter upper : Filter) (path : String) :
    (filter.overlay upper).get? path = (upper.get? path).or (filter.get? path) :=
  Keyed.lookup_union upper.ascending.nodup_keys filter.entries path

/-- The paths of an overlay are those of its two sides. -/
theorem mem_paths_overlay {filter upper : Filter} {path : String} :
    path ∈ (filter.overlay upper).paths ↔ path ∈ upper.paths ∨ path ∈ filter.paths :=
  Keyed.mem_keys_union

/-- The members of a filter that was made of an object are the members of the object. -/
theorem members_ofFields (fields : List (String × Json)) :
    (ofFields fields).members = Keyed.ofList fields :=
  Condition.operandsToJson_map_json (Keyed.ofList fields)

theorem toJson_ofFields (fields : List (String × Json)) :
    (ofFields fields).toJson = Json.ofFields fields := by
  rw [toJson_eq_obj, members_ofFields, Json.ofFields]

theorem paths_ofFields (fields : List (String × Json)) :
    (ofFields fields).paths = Keyed.keys (Keyed.ofList fields) := by
  rw [← keys_members, members_ofFields]

/-- Under a member of the object an overlay has the value of the member, and under any other path it
has what it had. -/
theorem lookup_members_overlay_ofFields (filter : Filter) (fields : List (String × Json))
    (path : String) :
    (filter.overlay (ofFields fields)).members.lookup path =
      ((Keyed.ofList fields).lookup path).or (filter.members.lookup path) := by
  rw [lookup_members, get?_overlay, Option.map_or, ← lookup_members, ← lookup_members,
    members_ofFields]

end Filter

namespace Plan

/-- No request overrides a fixed filter. `object` holds the members of the JSON object that the fixed
filter is made of, and `requested` is the filter that the request asks for.

Merged, the filter of the plan is an object with the paths of both sides. Under a path of the fixed
filter it has the member's own value, whatever the request has there, and under any other path what
the request's condition is written as. Overwritten, it is the object, for all requests alike. Without
a fixed filter it is the requested one. What is beside the filter depends on neither. -/
theorem fixed_filter_stands (schema : Schema) (params : Params) (paging : Paging)
    (fields : List (String × Json)) :
    let object := Keyed.ofList fields
    let requested := (Request.ofParams schema params).filter
    let plan := fun fixed combine => ofRequest (Request.ofParams schema params) ⟨fixed, combine, paging⟩
    (∃ members, (plan (some (.ofFields fields)) .merge).filter.toJson = .obj members ∧
      Keyed.Ascending members ∧
      (∀ path, path ∈ Keyed.keys members ↔ path ∈ Keyed.keys object ∨ path ∈ requested.paths) ∧
      (∀ path value, object.lookup path = some value → members.lookup path = some value) ∧
      (∀ path, path ∉ Keyed.keys object →
        members.lookup path = (requested.get? path).map Condition.toJson)) ∧
    ((plan (some (.ofFields fields)) .overwrite).filter.toJson = .obj object ∧
      ∀ (otherSchema : Schema) (otherParams : Params),
        (ofRequest (Request.ofParams otherSchema otherParams)
          ⟨some (.ofFields fields), .overwrite, paging⟩).filter =
          (plan (some (.ofFields fields)) .overwrite).filter) ∧
    (∀ combine, (plan none combine).filter.toJson = requested.toJson) ∧
    (∀ (fixed other : Option Filter) (combine otherwise : Combine),
      (plan fixed combine).limit = (plan other otherwise).limit ∧
      (plan fixed combine).skip = (plan other otherwise).skip ∧
      (plan fixed combine).sort = (plan other otherwise).sort ∧
      (plan fixed combine).select = (plan other otherwise).select) := by
  intro object requested plan
  refine ⟨?_, ⟨Filter.toJson_ofFields fields, fun _ _ => rfl⟩, fun _ => rfl,
    fun _ _ _ _ => ⟨rfl, rfl, rfl, rfl⟩⟩
  refine ⟨(requested.overlay (.ofFields fields)).members, rfl, Filter.ascending_members _, ?_, ?_, ?_⟩
  · intro path
    rw [Filter.keys_members, Filter.mem_paths_overlay, Filter.paths_ofFields]
  · intro path value held
    rw [Filter.lookup_members_overlay_ofFields, held, Option.some_or]
  · intro path free
    have absent : object.lookup path = none := Keyed.lookup_eq_none_of_not_mem free
    rw [Filter.lookup_members_overlay_ofFields, absent, Option.none_or, Filter.lookup_members]

/-- A request asks for an upper bound on a path whose fixed condition is a lower bound, and for a name
beside it. The plan has the lower bound alone, and the name as it was asked for. -/
theorem fixed_bound_stands :
    let schema := (Schema.empty.declare "age" ⟨.number, none⟩).declare "name" ⟨.string, none⟩
    let params : Params := ⟨[("age", .single "\x7blt\x7d40"), ("name", .single "\x7bexact\x7djo")],
      by decide⟩
    let bound : Json := .obj [("$gte", .str "18")]
    let requested := (Request.ofParams schema params).filter
    let options : PlanOptions := { fixed := some (.ofFields [("age", bound)]), combine := .merge }
    (requested.get? "age").map Condition.toJson = some (.obj [("$lt", .str "40")]) ∧
    ∃ members, (ofRequest (Request.ofParams schema params) options).filter.toJson = .obj members ∧
      members.lookup "age" = some bound ∧ members.lookup "name" = some (.str "jo") := by
  intro schema params bound requested options
  have entries : (Request.ofParams schema params).filter.entries =
      [("age", .operators [("$lt", .text "40")]), ("name", .text "jo")] := by cbv
  have asked : (requested.get? "age").map Condition.toJson = some (.obj [("$lt", .str "40")]) := by
    rw [Filter.get?, entries]
    rfl
  have name : (requested.get? "name").map Condition.toJson = some (.str "jo") := by
    rw [Filter.get?, entries]
    rfl
  obtain ⟨members, written, _, _, fixed, others⟩ :=
    (fixed_filter_stands schema params {} [("age", bound)]).1
  refine ⟨asked, members, written, fixed "age" bound rfl, ?_⟩
  rw [others "name" (by decide), name]

end Plan

end ParamFilter
