/-!
# Faults

What can go wrong around the reading of requests: with the configuration, and with what is given on the
command line. Requests themselves have no faults.
-/

namespace ParamFilter

/-- The kinds of faults. -/
inductive FaultKind where
  | io
  | yaml
  | serialization
  | configuration
  | badRequest
  deriving DecidableEq, Repr

/-- What messages of a kind begin with. -/
def FaultKind.title : FaultKind → String
  | io => "I/O error"
  | yaml => "YAML error"
  | serialization => "Serialization error"
  | configuration => "Configuration error"
  | badRequest => "Bad request"

/-- The cause of a fault. -/
inductive Fault where
  /-- A file cannot be read. -/
  | unreadable
  /-- A text is not YAML, or does not describe what it should. -/
  | malformedYaml
  /-- A text is not JSON. -/
  | malformedJson
  /-- A variable without a default is not set. -/
  | unsetVariable (name : String)
  /-- Pages would hold nothing. -/
  | emptyPages
  /-- There is no configuration under a path. -/
  | missingConfig (path : String)
  /-- The configuration under a path has a fault of its own. -/
  | brokenConfig (path : String) (cause : Fault)
  /-- The fixed filter is JSON, but no object. -/
  | notObject
  deriving DecidableEq, Repr

namespace Fault

/-- The kind of a fault. -/
def kind : Fault → FaultKind
  | unreadable => .io
  | malformedYaml => .yaml
  | malformedJson => .serialization
  | unsetVariable _ | emptyPages | missingConfig _ | brokenConfig _ _ => .configuration
  | notObject => .badRequest

/-- Whether a fault passes on what a reader of files or texts had to say. -/
def hasSource (fault : Fault) : Bool :=
  match fault.kind with
  | .io | .yaml | .serialization => true
  | .configuration | .badRequest => false

/-- The text of a fault. Of what a reader had to say, nothing is told. -/
def message : Fault → String
  | unreadable => FaultKind.title .io
  | malformedYaml => FaultKind.title .yaml
  | malformedJson => FaultKind.title .serialization
  | unsetVariable name =>
    FaultKind.title .configuration ++ ": Environment variable " ++ name ++
      " not found and no default provided"
  | emptyPages => FaultKind.title .configuration ++ ": paging.per_page must be greater than zero"
  | missingConfig path =>
    FaultKind.title .configuration ++ ": Configuration file not found: " ++ path
  | brokenConfig path cause =>
    FaultKind.title .configuration ++ ": Failed to load " ++ path ++ ": " ++ message cause
  | notObject => FaultKind.title .badRequest ++ ": --find-cond must be a JSON object"

end Fault

end ParamFilter
