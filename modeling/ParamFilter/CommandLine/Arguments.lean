import ParamFilter.Plan

/-!
# Command line arguments

One query, and options before, between or behind it. An option with a value takes it from behind an
equals sign, or as the next argument, which must not look like an option itself; the short form may also
touch its value. Short flags may share one dash. Behind two dashes alone, everything is a query.
Nothing may be given twice.
-/

namespace ParamFilter.CommandLine

/-- What has been asked for. -/
structure Arguments where
  query : String
  config : String
  fixed : Option String
  combine : Option Combine
  verbose : Bool

/-- Why arguments ask for nothing. -/
inductive Refusal where
  /-- An explanation is wanted. -/
  | help
  | misuse
  deriving DecidableEq, Repr

/-- The options that take a value. -/
inductive Setting where
  | config
  | fixed
  | combine
  deriving DecidableEq, Repr

/-- Where the configuration is when nothing is said about it. -/
def defaultConfig : String := "config.yaml"

/-- What has been given so far. -/
structure Given where
  query : Option String := none
  config : Option String := none
  fixed : Option String := none
  combine : Option Combine := none
  verbose : Bool := false

namespace Given

/-- Fills a place, unless it is filled already. -/
def fill {α : Type} (place : Option α) (value : α) : Except Refusal (Option α) :=
  match place with
  | none => .ok (some value)
  | some _ => .error .misuse

/-- Takes the query. -/
def takeQuery (given : Given) (query : String) : Except Refusal Given := do
  return { given with query := ← fill given.query query }

/-- Takes an option with its value. -/
def take (given : Given) (setting : Setting) (value : String) : Except Refusal Given :=
  match setting with
  | .config => do return { given with config := ← fill given.config value }
  | .fixed => do return { given with fixed := ← fill given.fixed value }
  | .combine =>
    match Combine.ofName? value with
    | some combine => do return { given with combine := ← fill given.combine combine }
    | none => .error .misuse

/-- Takes the flag for more notices. -/
def takeVerbose (given : Given) : Except Refusal Given :=
  if given.verbose then .error .misuse else .ok { given with verbose := true }

/-- Takes the letters behind one dash. The result also has the option that still lacks its value. -/
def takeLetters (given : Given) : List Char → Except Refusal (Given × Option Setting)
  | [] => .ok (given, none)
  | 'v' :: letters => do (← given.takeVerbose).takeLetters letters
  | 'h' :: _ => .error .help
  | ['c'] => .ok (given, some .config)
  | 'c' :: '=' :: value => do return (← given.take .config (String.ofList value), none)
  | 'c' :: value => do return (← given.take .config (String.ofList value), none)
  | _ => .error .misuse

/-- Takes a word behind two dashes, with the value that an equals sign attaches to it. The result also has
    the option that still lacks its value. -/
def takeWord (given : Given) (word : List Char) : Except Refusal (Given × Option Setting) :=
  let name := String.ofList (word.takeWhile (· != '='))
  let value := (word.dropWhile (· != '=')).tail?.map String.ofList
  let setting (setting : Setting) : Except Refusal (Given × Option Setting) :=
    match value with
    | some value => do return (← given.take setting value, none)
    | none => .ok (given, some setting)
  match name, value with
  | "config", _ => setting .config
  | "find-cond", _ => setting .fixed
  | "combine", _ => setting .combine
  | "verbose", none => do return (← given.takeVerbose, none)
  | "help", none => .error .help
  | _, _ => .error .misuse

/-- Takes one argument. The result also has the option that still lacks its value. -/
def takeArgument (given : Given) (argument : String) : Except Refusal (Given × Option Setting) :=
  match argument.toList with
  | '-' :: '-' :: word => given.takeWord word
  | '-' :: c :: letters => given.takeLetters (c :: letters)
  | _ => do return (← given.takeQuery argument, none)

/-- Whether an argument looks like an option. -/
def isOption (argument : String) : Bool :=
  match argument.toList with
  | '-' :: _ :: _ => true
  | _ => false

/-- Takes arguments in order. `lacking` is the option whose value comes next. -/
def takeAll (given : Given) (lacking : Option Setting) : List String → Except Refusal Given
  | [] => if lacking.isSome then .error .misuse else .ok given
  | argument :: rest =>
    match lacking with
    | some setting => do
      if isOption argument then .error .misuse
      (← given.take setting argument).takeAll none rest
    | none => do
      if argument = "--" then rest.foldlM takeQuery given
      else
        let (given, lacking) ← given.takeArgument argument
        given.takeAll lacking rest

end Given

/-- Reads arguments. The query is required. -/
def Arguments.ofList (arguments : List String) : Except Refusal Arguments := do
  let given ← ({} : Given).takeAll none arguments
  match given.query with
  | none => .error .misuse
  | some query =>
    return { query, config := given.config.getD defaultConfig, fixed := given.fixed,
             combine := given.combine, verbose := given.verbose }

/-- The explanation of the arguments. -/
def explanation : String :=
  "\n".intercalate [
    "Translate HTTP query parameters into a document-store filter",
    "",
    "Usage: api-query [OPTIONS] <QUERY>",
    "",
    "Arguments:",
    "  <QUERY>  Query string to translate, e.g. \"name=john&age=\x7bgte\x7d18&sort_by=-age\"",
    "",
    "Options:",
    "  -c, --config <CONFIG>        Configuration file path (default: config.yaml) [default: config.yaml]",
    "      --find-cond <FIND_COND>  Fixed filter as a JSON object, combined with the translated one",
    "      --combine <COMBINE>      How the fixed filter combines with the translated one (overrides " ++
      "config file) [possible values: overwrite, merge]",
    "  -v, --verbose                Log skipped parameters",
    "  -h, --help                   Print help",
    ""]

end ParamFilter.CommandLine
