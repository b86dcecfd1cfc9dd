import ParamFilter.Keyed

/-!
# JSON values

The values that requests and fixed filters bring along, and the form in which filters are written.
Numbers without a fraction or an exponent that fit a 64-bit word are whole numbers; all others are
doubles. Objects keep their fields in the order of their keys.
-/

namespace ParamFilter

/-- A JSON value. -/
inductive Json where
  | null
  | bool (b : Bool)
  | int (n : Int)
  | float (x : Float)
  | str (s : String)
  | arr (items : List Json)
  | obj (fields : List (String × Json))
  deriving Inhabited

namespace Json

/-- An object of the given fields, the last of several under one key. -/
def ofFields (fields : List (String × Json)) : Json := .obj (Keyed.ofList fields)

/-- Empty values count as absent: null, false, zero of either sign and the empty text. Lists and
    objects are never empty in this sense. -/
def isTruthy : Json → Bool
  | null => false
  | bool b => b
  | int n => n != 0
  | float x => x != 0.0
  | str s => s != ""
  | arr _ => true
  | obj _ => true

/-- A number, or null where JSON has no number to write. -/
def ofFloat (x : Float) : Json := if x.isFinite then .float x else .null

end Json

end ParamFilter
