import ParamFilter.Fault
import ParamFilter.Filter
import ParamFilter.Json.Reader

/-!
# Fixed filters in text

A fixed filter is written as a JSON object, whose members are its conditions.
-/

namespace ParamFilter.Filter

/-- Reads a fixed filter. -/
def ofText (text : String) : Except Fault Filter :=
  match Json.ofText? text with
  | none => .error .malformedJson
  | some (.obj fields) => .ok (ofFields fields)
  | some _ => .error .notObject

end ParamFilter.Filter
