import ParamFilter.CommandLine.Outcome

/-!
# The program

Looks up what the command line needs from its surroundings, prints the answer, and tells notices and faults
on the error stream.
-/

namespace ParamFilter.CommandLine

/-- What is found under a path. -/
def readFile (path : String) : IO File := do
  try
    return .text (← IO.FS.readFile path)
  catch
    | .noFileOrDirectory .. => return .missing
    | _ => return .unreadable

/-- The variables that a file names, as far as they are set. -/
def readVariables : File → IO (List (String × String))
  | .text content =>
    (Placeholder.all content).filterMapM fun placeholder => do
      return (← IO.getEnv placeholder.name).map (placeholder.name, ·)
  | _ => return []

/-- Whether a notice is told. -/
def isTold (verbose : Bool) (notice : Notice) : Bool :=
  match notice.level with
  | .info | .warn => true
  | .debug => verbose
  | .trace => false

end ParamFilter.CommandLine

open ParamFilter CommandLine

def main (arguments : List String) : IO UInt32 := do
  let asked := Arguments.ofList arguments
  let file ← match asked with
    | .ok asked => readFile asked.config
    | .error _ => pure .missing
  let known ← readVariables file
  let outcome := run (List.lookup · known) (fun _ => file) arguments
  match outcome with
  | .refused .misuse => IO.eprintln "error: the arguments are not understood; see --help"
  | .refused .help => pure ()
  | .failed fault => IO.eprintln ("Error: " ++ fault.message)
  | .answered notices _ =>
    let verbose := match asked with
      | .ok asked => asked.verbose
      | .error _ => false
    for notice in notices.filter (isTold verbose) do
      IO.eprintln (notice.level.name ++ " " ++ notice.text)
  IO.print outcome.output
  return outcome.exitCode.toUInt32
