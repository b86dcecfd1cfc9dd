import ParamFilter.Schema
import ParamFilter.Text.Quoted

/-!
# Notices

What reading a request has to say about it. Nothing in a request is an error: what cannot be used is
passed over, and a notice says so. Notices are data, and their wording is in one place. Looking up a
key gives trace notices, passing over an operand a debug notice, and the finished plan one line of
information. Going on without a configuration is worth a warning.

The wording is whole but in one place. Where a combinator is not JSON, what a JSON reader finds wrong
with it belongs behind the text, in parentheses. Reading gives a value or nothing here and no reasons, so
that part is left out.
-/

namespace ParamFilter

/-- How much a notice matters. -/
inductive Level where
  | trace
  | debug
  | info
  | warn
  deriving DecidableEq, Repr

/-- The name of a level. -/
def Level.name : Level → String
  | trace => "TRACE"
  | debug => "DEBUG"
  | info => "INFO"
  | warn => "WARN"

/-- Something to be said about a request. -/
inductive Notice where
  /-- The descent ended in a container without a schema. -/
  | untypedRegion (path : String)
  /-- A dotted key wants to descend into a path that is no container. -/
  | notContainer (path : String) (type : PathType)
  /-- No part of a dotted key before a dot is declared. -/
  | noParent (path : String)
  /-- A key without dots is not declared. -/
  | undeclared (path : String)
  /-- An operand has an empty value. -/
  | emptyValue (key : String)
  /-- The JSON of a combinator is empty. -/
  | emptyCombinator (key : String)
  /-- The text of a combinator is not JSON. Why it is not is not kept. -/
  | malformedCombinator (key : String)
  /-- The value of a paging parameter is not a count. -/
  | notCount (key value : String)
  /-- The kind of a field has no use for a value. -/
  | noCondition (key value : String) (kind : Kind) (operator : Option String)
  /-- A request has been turned into a plan. -/
  | planned (params paths : Nat) (limit skip : Option Nat) (sort select : Option String)
  /-- There is no configuration. -/
  | noConfig
  deriving DecidableEq, Repr

namespace Notice

/-- The level of a notice. -/
def level : Notice → Level
  | untypedRegion _ | notContainer _ _ | noParent _ | undeclared _ => .trace
  | emptyValue _ | emptyCombinator _ | malformedCombinator _ | notCount _ _ | noCondition _ _ _ _ =>
    .debug
  | planned _ _ _ _ _ _ => .info
  | noConfig => .warn

/-- A count, or a dash where there is none. -/
def countText : Option Nat → String
  | none => "-"
  | some n => toString n

/-- The text of a notice. That of a malformed combinator ends before the reason in parentheses. -/
def text : Notice → String
  | untypedRegion path => path ++ " is in an untyped region, treating as String"
  | notContainer path type => path ++ " is a " ++ type.name ++ ", cannot descend into it"
  | noParent path => path ++ " has no declared parent"
  | undeclared path => path ++ " is not declared"
  | emptyValue key => "Skipping " ++ key ++ ": empty value"
  | emptyCombinator key => "Skipping " ++ key ++ ": value is empty"
  | malformedCombinator key => "Skipping " ++ key ++ ": invalid JSON"
  | notCount key value => "Skipping " ++ key ++ "=" ++ Text.quoted value ++ ": not a count"
  | noCondition key value kind operator =>
    "Skipping " ++ key ++ "=" ++ Text.quoted value ++ ": no " ++ kind.name ++
      " condition for operator " ++ Text.quotedOption operator
  | planned params paths limit skip sort select =>
    toString params ++ " params -> " ++ toString paths ++ " filter paths, limit=" ++
      countText limit ++ " skip=" ++ countText skip ++ " sort=\"" ++ sort.getD "-" ++
      "\" select=\"" ++ select.getD "-" ++ "\""
  | noConfig => "No config.yaml found, using an empty schema"

end Notice

end ParamFilter
