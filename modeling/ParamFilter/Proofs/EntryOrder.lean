import Mathlib
import ParamFilter.Params.Query
import ParamFilter.Proofs.Slots

/-!
# The order of the parameters

Parameters that hold the same values under the same keys ask for the same, in whatever order the
keys stand. A query string adds the values of one key in the order of the text, and what it adds to
one key does not depend on the pairs of other keys that stand between them. So pairs of different
keys may be interleaved in any way. The order of the values of one key counts: it is the order in
which they are joined.
-/

namespace ParamFilter

/-- One more value under a key, which may hold nothing yet. -/
def Param.gather (held : Option Param) (value : String) : Option Param :=
  some (match held with
    | none => .single value
    | some param => param.push value)

namespace Params

/-- The decoded pairs of a query string in the order of the text. A leading question mark does not
count. -/
def pairs (query : String) : List (String × String) :=
  queryPairs (match query.toList with
    | '?' :: rest => rest
    | chars => chars)

/-- The parameters of a query string are its pairs, added one after the other. -/
theorem ofQuery_eq_collect (query : String) : ofQuery query = collect (pairs query) := rfl

/-- Adding a value changes what its key holds and nothing else. -/
theorem get?_append (params : Params) (key value asked : String) :
    (params.append key value).get? asked =
      if key = asked then Param.gather (params.get? asked) value else params.get? asked := by
  by_cases same : key = asked
  · subst same
    rw [append, get?_insert_self, if_pos rfl]
    cases held : params.get? key <;> simp [Param.gather]
  · rw [append, get?_insert_of_ne _ (Ne.symm same), if_neg same]

/-- A key holds the values of its own pairs, gathered in their order. -/
theorem get?_foldl_append (added : List (String × String)) (params : Params) (key : String) :
    (added.foldl (fun params pair => params.append pair.1 pair.2) params).get? key =
      (textsUnder key added).foldl Param.gather (params.get? key) := by
  induction added generalizing params with
  | nil => rfl
  | cons pair rest ih =>
    rw [List.foldl_cons, ih, get?_append]
    by_cases own : pair.1 = key
    · simp [textsUnder, own]
    · simp [textsUnder, own]

theorem get?_collect (added : List (String × String)) (key : String) :
    (collect added).get? key = (textsUnder key added).foldl Param.gather none :=
  get?_foldl_append added empty key

end Params

namespace Request

/-- Parameters that hold the same under every key ask for the same: a slot of the request is a
function of the chunks under one key, and these are a function of what the key holds. -/
theorem ofParams_congr (schema : Schema) {left right : Params}
    (same : ∀ key, left.get? key = right.get? key) :
    ofParams schema left = ofParams schema right := by
  apply ext_at?
  intro slot
  rw [at?_ofParams, at?_ofParams, Params.chunks, Params.chunks, same]

/-- What parameters ask for does not depend on the order of their keys. For query strings this means
that only the values of each key and their order among themselves count, because what a key holds is
gathered from its own pairs. -/
theorem ofParams_order_irrelevant (schema : Schema) :
    (∀ left right : Params, (∀ key, left.get? key = right.get? key) →
      ofParams schema left = ofParams schema right) ∧
    (∀ left right : String,
      (∀ key, textsUnder key (Params.pairs left) = textsUnder key (Params.pairs right)) →
      ofParams schema (Params.ofQuery left) = ofParams schema (Params.ofQuery right)) := by
  constructor
  · intro left right same
    exact ofParams_congr schema same
  · intro left right same
    apply ofParams_congr
    intro key
    rw [Params.ofQuery_eq_collect, Params.ofQuery_eq_collect, Params.get?_collect,
      Params.get?_collect, same]

/-- Two entries that change places, and two spellings of a query string in which the values of one
key stay in their order while the pair of another key moves. -/
theorem order_irrelevant_for_ages :
    let schema := Schema.empty.declare "age" ⟨.number, none⟩
    let ahead : Params := ⟨[("age", .multi ["18", "65"]), ("page", .single "2")], by decide⟩
    let behind : Params := ⟨[("page", .single "2"), ("age", .multi ["18", "65"])], by decide⟩
    ((∀ key, ahead.get? key = behind.get? key) ∧ ofParams schema ahead = ofParams schema behind) ∧
    (∀ key, textsUnder key (Params.pairs "?age=18&page=2&age=65") =
      textsUnder key (Params.pairs "age=18&age=65&page=2")) ∧
    ofParams schema (Params.ofQuery "?age=18&page=2&age=65") =
      ofParams schema (Params.ofQuery "age=18&age=65&page=2") := by
  intro schema ahead behind
  have sameValues : ∀ key, ahead.get? key = behind.get? key := by
    intro key
    by_cases age : key = "age"
    · subst age
      rfl
    · by_cases page : key = "page"
      · subst page
        rfl
      · have noAge : (key == "age") = false := beq_eq_false_iff_ne.mpr age
        have noPage : (key == "page") = false := beq_eq_false_iff_ne.mpr page
        simp [ahead, behind, Params.get?, List.lookup_cons, noAge, noPage]
  have sameTexts : ∀ key, textsUnder key (Params.pairs "?age=18&page=2&age=65") =
      textsUnder key (Params.pairs "age=18&age=65&page=2") := by
    have between : Params.pairs "?age=18&page=2&age=65" =
        [("age", "18"), ("page", "2"), ("age", "65")] := by cbv
    have atEnd : Params.pairs "age=18&age=65&page=2" =
        [("age", "18"), ("age", "65"), ("page", "2")] := by cbv
    intro key
    rw [between, atEnd]
    by_cases age : "age" = key
    · subst age
      rfl
    · simp [textsUnder, List.filter_cons, age]
  exact ⟨⟨sameValues, (ofParams_order_irrelevant schema).1 ahead behind sameValues⟩, sameTexts,
    (ofParams_order_irrelevant schema).2 _ _ sameTexts⟩

end Request

end ParamFilter
