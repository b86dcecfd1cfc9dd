import ParamFilter.Text.Blank

/-!
# Sort directives

A comma list as it is written in a request, the directive with spaces in place of commas that a plan
passes on, and the terms that a directive spells. A term that starts with a minus sign is descending; a
plus sign may mark an ascending one. One sign is read and the rest is the field.
-/

namespace ParamFilter.Sort

/-- The direction of a sort term. -/
inductive Order where
  | ascending
  | descending
  deriving DecidableEq, Repr

/-- One term of a sort directive. -/
structure Term where
  field : String
  order : Order
  deriving DecidableEq, Repr

/-- The directive for a comma list: every comma becomes a space, and nothing else changes. -/
def directive (list : String) : String :=
  String.ofList (list.toList.map fun c => if c = ',' then ' ' else c)

/-- Reads one word of a directive. -/
def Term.ofWord : List Char → Term
  | '-' :: field => ⟨String.ofList field, .descending⟩
  | '+' :: field => ⟨String.ofList field, .ascending⟩
  | field => ⟨String.ofList field, .ascending⟩

/-- The terms of a directive in order. A word that is only a sign is no term. -/
def terms (directive : String) : List Term :=
  ((Text.words directive.toList).map Term.ofWord).filter (·.field ≠ "")

end ParamFilter.Sort
