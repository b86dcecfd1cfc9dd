import ParamFilter.Instant
import ParamFilter.Json

/-!
# Conditions

What a filter demands of one path. A literal demands equality; an operator object demands everything that
its operators say; JSON brought along by the caller is passed on as it is. Conditions are written as
JSON in which dates and patterns are objects of their own, so that no text can be taken for either.
-/

namespace ParamFilter

/-- A condition on one path. Operator objects keep their operators in the order of their keys. -/
inductive Condition where
  | bool (b : Bool)
  | int (n : Int)
  | float (x : Float)
  | text (s : String)
  | date (instant : Instant)
  /-- A text that matches the source, in any case. -/
  | pattern (source : String)
  | list (items : List Condition)
  | operators (operands : List (String × Condition))
  /-- JSON from the caller: a logical combination, or a part of a fixed filter. -/
  | json (value : Json)

namespace Condition

/-- The key of an operator in an operator object. -/
def operatorKey (name : String) : String := "$" ++ name

/-- An operator object with one operator. -/
def operator (name : String) (operand : Condition) : Condition :=
  operators [(operatorKey name, operand)]

/-- A list of texts. -/
def texts (tokens : List String) : Condition := list (tokens.map text)

/-- A list of patterns. -/
def patterns (sources : List String) : Condition := list (sources.map pattern)

/-- The operand of an operator, in an operator object that has it. -/
def operand? (condition : Condition) (name : String) : Option Condition :=
  match condition with
  | operators operands => operands.lookup (operatorKey name)
  | _ => none

/-- Puts a condition in the place of another. Two operator objects are united, and the new operand
    counts where both have the operator; otherwise the new condition counts alone. -/
def mergeOver (held incoming : Condition) : Condition :=
  match held, incoming with
  | operators old, operators new => operators (Keyed.union old new)
  | _, condition => condition

/-- The name of the form that a condition has. -/
def form : Condition → String
  | bool _ => "Bool"
  | int _ => "Int"
  | float _ => "Float"
  | text _ => "Text"
  | date _ => "Date"
  | pattern _ => "Pattern"
  | list _ => "List"
  | operators _ => "Operators"
  | json _ => "Json"

mutual

/-- A condition as JSON. -/
def toJson : Condition → Json
  | bool b => .bool b
  | int n => .int n
  | float x => .ofFloat x
  | text s => .str s
  | date instant => .obj [("$date", .str instant.text)]
  | pattern source =>
    .obj [("$regularExpression", .obj [("options", .str "i"), ("pattern", .str source)])]
  | list items => .arr (itemsToJson items)
  | operators operands => .obj (operandsToJson operands)
  | json value => value

/-- The items of a list as JSON. -/
def itemsToJson : List Condition → List Json
  | [] => []
  | item :: rest => toJson item :: itemsToJson rest

/-- The operands of an operator object as JSON, under their keys. -/
def operandsToJson : List (String × Condition) → List (String × Json)
  | [] => []
  | (key, operand) :: rest => (key, toJson operand) :: operandsToJson rest

end

end Condition

end ParamFilter
