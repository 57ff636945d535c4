import ClusterGate.Cli.LogFilter
import ClusterGate.Cli.Task

/-!
# The command line

Reads the arguments, the environment and the configuration file, and prints what the task came to:
its value on the standard output, and what it logged and its failure on the standard error.
-/

namespace ClusterGate

/-- The variable that holds the log filter. -/
def filterVariable : String := "AURORA_LOG"

/-- The variables that the program looks at, where they are set. -/
def environment : IO (Dict String String) := do
  let url ← IO.getEnv Cli.Invocation.urlVariable
  return .ofList (url.toList.map fun value => (Cli.Invocation.urlVariable, value))

def bytesOf (path : String) : IO (Option ByteArray) := do
  return (← (IO.FS.readBinFile path).toBaseIO).toOption

def printLogs (filter : Verbosity) (entries : List LogEntry) : IO Unit :=
  (entries.filter fun e => filter.admits e.level).forM fun e => IO.eprintln e.line

def printUsage (stop : Cli.Stop) : IO Unit :=
  match stop with
  | .usage => IO.eprintln Cli.Invocation.usage
  | .help => IO.println Cli.Invocation.usage

end ClusterGate

open ClusterGate

def main (args : List String) : IO UInt32 := do
  let filter := LogFilter.verbosity (← IO.getEnv filterVariable)
  match Cli.Invocation.ofArguments (← environment) args with
  | .error stop =>
    printUsage stop
    return stop.exitCode.toUInt32
  | .ok invocation =>
    let file ← match invocation.config with
      | none => pure none
      | some path => bytesOf path
    let done := invocation.run Postgres.Server.unreachable file (.start ())
    printLogs filter done.logs
    match done.result with
    | .ok output =>
      IO.println (output.pretty 0)
      return 0
    | .error failure =>
      IO.eprintln ("Error: " ++ failure.message)
      return 1
