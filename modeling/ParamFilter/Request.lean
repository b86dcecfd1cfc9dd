import ParamFilter.Condition.Coercion
import ParamFilter.Filter
import ParamFilter.Json.Reader
import ParamFilter.Operand
import ParamFilter.Schema.Resolution
import ParamFilter.Sort

/-!
# Requests

What the parameters of a request ask for: a filter, and directives beside it. Eight keys are reserved:
two hold logical combinations as JSON, four are counts for paging, and two are comma lists. Every other
key is a path, and its kind in the schema decides what its operands become.

Each operand is handled on its own and in order. It either makes one write, to the directive or to the path
of its key, or it is passed over with one notice and changes nothing. So reading a request never fails, and
all that happens in it is in the list of its operands.
-/

namespace ParamFilter

/-- The reserved keys that hold a count. -/
inductive CountKey where
  | page
  | perPage
  | limit
  | skip
  deriving DecidableEq, Repr

/-- The reserved keys that hold a comma list. -/
inductive ListKey where
  | sort
  | select
  deriving DecidableEq, Repr

/-- What a key is for. -/
inductive Route where
  | combinator
  | count (key : CountKey)
  | commaList (key : ListKey)
  | field
  deriving DecidableEq, Repr

/-- What a key is for. Reserved keys are reserved even where the schema declares a path of that name. -/
def Route.ofKey (key : String) : Route :=
  match key with
  | "$or" | "$and" => combinator
  | "page" => count .page
  | "per_page" => count .perPage
  | "limit" => count .limit
  | "skip" => count .skip
  | "sort_by" => commaList .sort
  | "select" => commaList .select
  | _ => field

/-- Paging, order and selection of fields. -/
structure Directives where
  page : Option Nat := none
  perPage : Option Nat := none
  limit : Option Nat := none
  skip : Option Nat := none
  sort : Option String := none
  select : Option String := none
  deriving DecidableEq, Repr

namespace Directives

/-- Sets one of the counts. -/
def setCount (directives : Directives) (n : Nat) : CountKey → Directives
  | .page => { directives with page := some n }
  | .perPage => { directives with perPage := some n }
  | .limit => { directives with limit := some n }
  | .skip => { directives with skip := some n }

/-- Sets one of the lists. -/
def setList (directives : Directives) (list : String) : ListKey → Directives
  | .sort => { directives with sort := some list }
  | .select => { directives with select := some list }

/-- One of the counts. -/
def count? (directives : Directives) : CountKey → Option Nat
  | .page => directives.page
  | .perPage => directives.perPage
  | .limit => directives.limit
  | .skip => directives.skip

/-- A limit or an amount to skip rules out pages. -/
def usesOffset (directives : Directives) : Bool := directives.limit.isSome || directives.skip.isSome

end Directives

/-- What a request asks for. -/
structure Request where
  filter : Filter := .empty
  directives : Directives := {}

/-- The one change that an operand makes. -/
inductive Write where
  | count (key : CountKey) (n : Nat)
  | commaList (key : ListKey) (directive : String)
  /-- Puts a logical combination on its path. -/
  | combination (path : String) (value : Json)
  /-- Adds a condition to a path. -/
  | condition (path : String) (condition : Condition)

/-- Makes a change. -/
def Request.apply (request : Request) : Write → Request
  | .count key n => { request with directives := request.directives.setCount n key }
  | .commaList key list => { request with directives := request.directives.setList list key }
  | .combination path value => { request with filter := request.filter.set path (.json value) }
  | .condition path condition =>
    { request with filter := request.filter.merge path condition }

/-- What becomes of one operand: a write, or the notice of passing it over. `lookup` holds what finding its
    kind had to say before. -/
structure Effect where
  lookup : List Notice
  result : Except Notice Write

namespace Effect

/-- An operand that makes a write. -/
def written (write : Write) : Effect := ⟨[], .ok write⟩

/-- An operand that is passed over. -/
def passedOver (notice : Notice) : Effect := ⟨[], .error notice⟩

/-- All that an operand gives rise to say, in order. -/
def notices (effect : Effect) : List Notice :=
  match effect.result with
  | .ok _ => effect.lookup
  | .error notice => effect.lookup ++ [notice]

/-- A combinator has to be JSON, and not an empty value. -/
def ofCombinator (key value : String) : Effect :=
  match Json.ofText? value with
  | none => passedOver (.malformedCombinator key)
  | some json =>
    if json.isTruthy then written (.combination key json) else passedOver (.emptyCombinator key)

/-- A count has to be one; blanks around it do not matter. -/
def ofCount (key : String) (slot : CountKey) (value : String) : Effect :=
  match Text.count? (Text.trim value.toList) with
  | none => passedOver (.notCount key value)
  | some n => written (.count slot n)

/-- The operand of a field is coerced by the kind of the field. -/
def ofField (schema : Schema) (key value : String) (operator : Option String) : Effect :=
  let resolution := Schema.resolve (some schema) "" key operator
  match Condition.ofOperand? resolution.kind value operator with
  | none => ⟨resolution.notices, .error (.noCondition key value resolution.kind operator)⟩
  | some condition => ⟨resolution.notices, .ok (.condition key condition)⟩

/-- What becomes of one chunk of a parameter. Combinators are read as they stand, because their braces are
    not operators; an operand with an empty value is passed over. -/
def ofChunk (schema : Schema) (key chunk : String) : Effect :=
  let route := Route.ofKey key
  let operand := if route = .combinator then Operand.verbatim chunk else Operand.ofChunk chunk
  if operand.value = "" then passedOver (.emptyValue key)
  else match route with
    | .combinator => ofCombinator key operand.value
    | .count slot => ofCount key slot operand.value
    | .commaList slot => written (.commaList slot (Sort.directive operand.value))
    | .field => ofField schema key operand.value operand.operator

end Effect

/-- The chunks of all parameters with their keys, in order. -/
def Params.operands (params : Params) : List (String × String) :=
  params.entries.flatMap fun entry => (Operand.chunks entry.2).map fun chunk => (entry.1, chunk)

namespace Request

/-- Handles one operand. -/
def step (schema : Schema) (request : Request) (operand : String × String) : Request :=
  match (Effect.ofChunk schema operand.1 operand.2).result with
  | .ok write => request.apply write
  | .error _ => request

/-- What parameters ask for. -/
def ofParams (schema : Schema) (params : Params) : Request :=
  params.operands.foldl (step schema) {}

/-- All that reading a request has to say, in order. -/
def notices (schema : Schema) (params : Params) : List Notice :=
  params.operands.flatMap fun operand => (Effect.ofChunk schema operand.1 operand.2).notices

/-- A count as JSON, null when it is not set. -/
def countToJson (count : Option Nat) : Json := (count.map fun n => Json.int n).getD .null

/-- A text as JSON, null when it is not set. -/
def textToJson (text : Option String) : Json := (text.map Json.str).getD .null

/-- What a request asks for, as JSON. -/
def toJson (request : Request) : Json :=
  let directives := request.directives
  .obj [("filter", request.filter.toJson), ("page", countToJson directives.page),
    ("per_page", countToJson directives.perPage), ("limit", countToJson directives.limit),
    ("skip", countToJson directives.skip), ("sort", textToJson directives.sort),
    ("select", textToJson directives.select)]

end Request

end ParamFilter
