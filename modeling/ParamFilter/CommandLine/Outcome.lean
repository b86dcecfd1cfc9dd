import ParamFilter.CommandLine.Arguments
import ParamFilter.Config
import ParamFilter.Filter.Reader
import ParamFilter.Json.Printer
import ParamFilter.Params.Query

/-!
# What the command line answers

The plan for a query, as JSON over several lines, or the reason why there is none. Arguments are looked
at first, then the configuration, and the fixed filter last; the first fault counts. A configuration
that nobody asked for may be missing.
-/

namespace ParamFilter.CommandLine

/-- What is found under a path. -/
inductive File where
  | missing
  | unreadable
  | text (content : String)

/-- How a run ends. -/
inductive Outcome where
  | refused (refusal : Refusal)
  | failed (fault : Fault)
  | answered (notices : List Notice) (plan : Plan)

namespace Outcome

/-- The exit code of a run. -/
def exitCode : Outcome → Nat
  | refused .help => 0
  | refused .misuse => 2
  | failed _ => 1
  | answered _ _ => 0

/-- What a run prints. -/
def output : Outcome → String
  | refused .help => explanation
  | refused .misuse => ""
  | failed _ => ""
  | answered _ plan => Json.pretty "" plan.toJson ++ "\n"

end Outcome

/-- Loads the configuration from what is found under its path. Also says whether it is missing. -/
def loadConfig (environment : String → Option String) (path : String) :
    File → Except Fault (Config × Bool)
  | .missing =>
    if path = defaultConfig then .ok ({}, true) else .error (.missingConfig path)
  | .unreadable => .error .unreadable
  | .text content =>
    match Config.ofYaml environment content with
    | .ok config => .ok (config, false)
    | .error cause => .error (.brokenConfig path cause)

/-- The notices on a query and the plan for it. -/
def answer (environment : String → Option String) (file : File) (arguments : Arguments) :
    Except Fault (List Notice × Plan) := do
  let (config, isMissing) ← loadConfig environment arguments.config file
  let config := { config with combine := arguments.combine.getD config.combine }
  let fixed ← match arguments.fixed with
    | some text => (Filter.ofText text).map some
    | none => .ok none
  let params := Params.ofQuery arguments.query
  let plan := Plan.ofRequest (Request.ofParams config.schema params) (config.options fixed)
  let first := if isMissing then [Notice.noConfig] else []
  return (first ++ Request.notices config.schema params ++ [Plan.summary params plan], plan)

/-- Runs the command line, given what is found under each path. -/
def run (environment : String → Option String) (file : String → File) (arguments : List String) :
    Outcome :=
  match Arguments.ofList arguments with
  | .error refusal => .refused refusal
  | .ok arguments =>
    match answer environment (file arguments.config) arguments with
    | .error fault => .failed fault
    | .ok (notices, plan) => .answered notices plan

end ParamFilter.CommandLine
