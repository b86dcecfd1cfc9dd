import ParamFilter.Request

/-!
# Query plans

The settled form of a request: one filter, how many results to pass over and how many to give, the order
and the selected fields. A fixed filter may stand in place of the requested one or be laid over it; in
neither case can the request change what the fixed filter demands. Pages are turned into a limit and an
amount to skip, unless the request gave one of these itself.
-/

namespace ParamFilter

/-- How a fixed filter goes together with the requested one. -/
inductive Combine where
  /-- The fixed filter counts alone. -/
  | overwrite
  /-- The fixed filter is laid over the requested one. -/
  | merge
  deriving DecidableEq, Repr

namespace Combine

/-- The word for a way to combine filters. -/
def name : Combine → String
  | overwrite => "overwrite"
  | merge => "merge"

/-- The way that a word stands for. Words are compared exactly. -/
def ofName? (name : String) : Option Combine := [overwrite, merge].find? (·.name = name)

/-- Reads a way to combine filters from its word, which may be wrapped into an object over null. -/
def ofJson? : Json → Option Combine
  | .str name => ofName? name
  | .obj [(name, .null)] => ofName? name
  | _ => none

end Combine

/-- What counts when a request names only one of page and page size. -/
structure Paging where
  page : Nat := 1
  perPage : Nat := 10
  deriving DecidableEq, Repr

namespace Paging

/-- Reads a count from JSON. -/
def countOfJson? : Json → Option Nat
  | .int n => if 0 ≤ n then some n.natAbs else none
  | _ => none

/-- Reads the member of an object that holds a count; the default counts when it is missing. -/
def member? (fields : List (String × Json)) (key : String) (missing : Nat) : Option Nat :=
  match fields.lookup key with
  | none => some missing
  | some value => countOfJson? value

/-- Reads paging defaults from an object, or from the list of its two members in order, of which some may be
    left out at the end. -/
def ofJson? : Json → Option Paging
  | .obj fields => do
    return ⟨← member? fields "page" 1, ← member? fields "per_page" 10⟩
  | .arr [] => some {}
  | .arr [page] => do
    return { page := ← countOfJson? page }
  | .arr [page, perPage] => do
    return ⟨← countOfJson? page, ← countOfJson? perPage⟩
  | _ => none

end Paging

/-- What a plan takes into account besides the request. -/
structure PlanOptions where
  fixed : Option Filter := none
  combine : Combine := .overwrite
  paging : Paging := {}

/-- The settled form of a request. -/
structure Plan where
  filter : Filter
  limit : Option Nat
  skip : Option Nat
  sort : Option String
  select : Option String

namespace Plan

/-- The filter of a plan. -/
def combined (requested : Filter) : Option Filter → Combine → Filter
  | none, _ => requested
  | some fixed, .overwrite => fixed
  | some fixed, .merge => requested.overlay fixed

/-- How many results to pass over before a page. Pages count from one, page zero is the first too, and an
    amount above the largest count becomes the largest count. -/
def pageSkip (page perPage : Nat) : Nat := min Text.maxCount ((page - 1) * perPage)

/-- The limit of a plan and how many results it passes over. -/
def window (directives : Directives) (paging : Paging) : Option Nat × Option Nat :=
  if directives.usesOffset then (directives.limit, directives.skip)
  else if directives.page.isSome || directives.perPage.isSome then
    let perPage := directives.perPage.getD paging.perPage
    (some perPage, some (pageSkip (directives.page.getD paging.page) perPage))
  else (none, none)

/-- The plan for a request. -/
def ofRequest (request : Request) (options : PlanOptions) : Plan :=
  let (limit, skip) := window request.directives options.paging
  { filter := combined request.filter options.fixed options.combine
    limit, skip
    sort := request.directives.sort
    select := request.directives.select }

/-- The terms of the sort directive. -/
def sortTerms (plan : Plan) : List Sort.Term := (plan.sort.map Sort.terms).getD []

/-- The line of information on a finished plan. -/
def summary (params : Params) (plan : Plan) : Notice :=
  .planned params.size plan.filter.size plan.limit plan.skip plan.sort plan.select

/-- A plan as JSON. -/
def toJson (plan : Plan) : Json :=
  .obj [("filter", plan.filter.toJson), ("limit", Request.countToJson plan.limit),
    ("skip", Request.countToJson plan.skip), ("sort", Request.textToJson plan.sort),
    ("select", Request.textToJson plan.select)]

end Plan

end ParamFilter
