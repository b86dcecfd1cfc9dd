import ParamFilter.Condition
import ParamFilter.Decimal.Reader
import ParamFilter.Instant.Reader
import ParamFilter.Schema

/-!
# Coercion of operands

How the value and the operator of an operand become a condition, by the kind of the field. The kind
decides which operators mean something; all others are passed over and the value counts as if it had
none. Numbers and texts keep the text that the user wrote wherever an operator or a list is involved. A
value that the kind cannot use gives no condition.
-/

namespace ParamFilter.Condition

/-- The operators that compare by order. -/
def rangeOperators : List String := ["gt", "gte", "lt", "lte"]

/-- The operators that compare numbers. -/
def comparisons : List String := rangeOperators ++ ["ne"]

/-- The words for true, in any case. Everything else is false. -/
def trueWords : List String := ["true", "t", "yes", "y"]

/-- What the options of a partial match say. Readers of the filter rely on exactly this text. -/
def partialOptions : String := "-i"

/-- How many miles a degree of latitude is long. -/
def milesPerDegree : Float := 69.0

/-- The parts of a value between its commas. -/
def tokens (value : String) : List String := (value.toList.splitOn ',').map String.ofList

/-- Whether a value is a list. -/
def isList (value : String) : Bool := value.toList.contains ','

/-- Whether a value is one of the words for true. -/
def truth (value : String) : Bool := trueWords.any (·.toList = value.toList.map Char.toLower)

/-- A value under an operator that is one of `known`, and the value alone otherwise. -/
def under (known : List String) (operator : Option String) (value : Condition) : Condition :=
  match operator with
  | some name => if known.contains name then .operator name value else value
  | none => value

/-- A number needs a digit somewhere. A list asks for one of its parts, all of them or none of them, or
    for a remainder; a comparison keeps the text; anything else is the integer that the value begins
    with. -/
def ofNumber? (value : String) (operator : Option String) : Option Condition :=
  if !value.toList.any Char.isDigit then none
  else if isList value then
    match operator with
    | some "all" => some (.operator "all" (texts (tokens value)))
    | some "nin" => some (.operator "nin" (texts (tokens value)))
    | some "mod" => some (.operator "mod" (texts ((tokens value).take 2)))
    | _ => some (.operator "in" (texts (tokens value)))
  else
    match operator with
    | some name =>
      if comparisons.contains name then some (.operator name (.text value))
      else (Text.leadingInt? value.toList).map .int
    | none => (Text.leadingInt? value.toList).map .int

/-- A date in any of the forms that dates have, alone or compared by order. -/
def ofDate? (value : String) (operator : Option String) : Option Condition :=
  (Instant.ofText? value).map fun instant => under rangeOperators operator (.date instant)

/-- A list asks for a match with one of its parts, with all of them or with none of them. A run of digits is
    compared by order or as it is. Any other text is excluded, taken exactly, or matched in part. -/
def ofString (value : String) (operator : Option String) : Condition :=
  if isList value then
    match operator with
    | some "all" => .operator "all" (patterns (tokens value))
    | some "nin" => .operator "nin" (patterns (tokens value))
    | _ => .operator "in" (patterns (tokens value))
  else if Text.isDigits value.toList then under rangeOperators operator (.text value)
  else
    match operator with
    | some "ne" | some "not" => .operator "not" (.pattern value)
    | some "exact" => .text value
    | _ => operators [("$options", .text partialOptions), ("$regex", .text value)]

/-- Reads one coordinate or distance; blanks around it do not matter. -/
def coordinate? (token : String) : Option Float := Text.float? (Text.trim token.toList)

/-- A place: latitude and longitude, and a distance in miles if it can be read. The distance is written in
    degrees. Whatever follows is passed over, and so is the operator. -/
def ofPlace? (value : String) : Option Condition :=
  match tokens value with
  | latitude :: longitude :: rest => do
    let point : Condition := .list [.float (← coordinate? latitude), .float (← coordinate? longitude)]
    return match rest.head?.bind coordinate? with
      | some miles => operators [("$maxDistance", .float (miles / milesPerDegree)), ("$near", point)]
      | none => .operator "near" point
  | _ => none

/-- The condition for an operand on a field of a kind. -/
def ofOperand? (kind : Kind) (value : String) (operator : Option String) : Option Condition :=
  match kind with
  | .boolean => some (.bool (truth value))
  | .number => ofNumber? value operator
  | .string => some (ofString value operator)
  | .date => ofDate? value operator
  | .identifier => some (.text value)
  | .geoPoint => ofPlace? value
  | .unknown => none

end ParamFilter.Condition
