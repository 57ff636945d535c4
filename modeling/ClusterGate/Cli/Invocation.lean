import ClusterGate.Cli.Arguments
import ClusterGate.Host
import ClusterGate.Host.Listing

/-!
# What the command line asks for
-/

namespace ClusterGate.Cli

structure Destination where
  databaseUrl : String
  /-- The host to open. Without it, the topology is chosen from. -/
  host : Option String
  port : Nat
  role : HostRole
  /-- A host list that is published before connecting. -/
  topology : Option String
  protocol : String
  deriving DecidableEq, Repr

inductive Task
  /-- Tell the zone of a host and compare it with the preferred one. -/
  | resolveZone (host : String) (hostMap preferred : Option String)
  /-- Read a version line. -/
  | parseVersion (line : String)
  /-- Open a connection and report what the probes found. -/
  | probe (destination : Destination)
  /-- Run one statement. -/
  | exec (destination : Destination) (strict : Bool) (sql : String)
  deriving DecidableEq, Repr

structure Invocation where
  /-- The path of a configuration file. -/
  config : Option String
  task : Task
  deriving DecidableEq, Repr

namespace Invocation

/-! ### Values of options -/

/-- A port. A minus sign is allowed before zero. -/
def port? (s : String) : Option Nat :=
  match s.toList with
  | '-' :: c :: r => (Text.readDigits 1 0 (c :: r)).toOption
  | cs => (Text.readDecimal Listing.portBound cs).toOption

def role? : String → Option HostRole
  | "writer" => some .writer
  | "reader" => some .reader
  | _ => none

def defaultPort : Nat := 5432

def defaultProtocol : String := "jdbc:postgresql:"

/-- The variable that holds the database URL where no option does. -/
def urlVariable : String := "DATABASE_URL"

/-! ### Commands -/

/-- An option that takes any value. -/
def textOption (name : String) : OptionSpec := ⟨name, .value fun _ => true⟩

/-- The option for the configuration file, which every command understands. -/
def configOption : OptionSpec := ⟨"config", .value fun v => !v.isEmpty⟩

def destinationOptions : List OptionSpec :=
  [textOption "database-url", textOption "host", ⟨"port", .value (port? · |>.isSome)⟩,
    ⟨"role", .value (role? · |>.isSome)⟩, textOption "topology", textOption "protocol"]

/-- The options of a command and the number of its operands. -/
def commands : List (String × List OptionSpec × Nat) :=
  [("resolve-az", [textOption "host", textOption "host-az-map", textOption "preferred-az"], 0),
    ("parse-version", [], 1),
    ("probe", destinationOptions, 0),
    ("exec", ⟨"strict-writer", .nothing⟩ :: destinationOptions, 1)]

def usageLine (command : String × List OptionSpec × Nat) : String :=
  " ".intercalate (("  " ++ command.1) :: command.2.1.map OptionSpec.usage ++
    List.replicate command.2.2 "<TEXT>")

def usage : String :=
  "\n".intercalate ("Usage: aurora [--config <VALUE>] <COMMAND>" :: "Commands:" ::
    commands.map usageLine)

/-- Commands understand their own options and the one for the configuration file. -/
def grammar (options : List OptionSpec) (operands : Nat) : Grammar where
  options := configOption :: options
  operands := operands
  versioned := false
  stopsAtOperand := false

/-- What may stand before the command. -/
def mainGrammar : Grammar where
  options := [configOption]
  operands := 0
  versioned := true
  stopsAtOperand := true

def destination? (env : Dict String String) (g : Given) : Option Destination := do
  let databaseUrl ← (g.value? "database-url").or (env.get? urlVariable)
  return {
    databaseUrl
    host := g.value? "host"
    port := ((g.value? "port").bind port?).getD defaultPort
    role := ((g.value? "role").bind role?).getD .writer
    topology := g.value? "topology"
    protocol := (g.value? "protocol").getD defaultProtocol }

/-- The task that a command with its options is. Something may be missing. -/
def task? (env : Dict String String) (command : String) (g : Given) : Option Task :=
  match command, g.operands with
  | "resolve-az", _ => do
    let host ← g.value? "host"
    return .resolveZone host (g.value? "host-az-map") (g.value? "preferred-az")
  | "parse-version", [line] => some (.parseVersion line)
  | "probe", _ => (destination? env g).map .probe
  | "exec", [sql] => (destination? env g).map (.exec · (g.isOn "strict-writer") sql)
  | _, _ => none

/-- What asking for help with some commands comes to. At most one may be named, and a known one. -/
def help : List String → Stop
  | [] => .help
  | [name] => if name = "help" || (commands.lookup name).isSome then .help else .usage
  | _ => .usage

/-- Read a command line. A configuration file that is given after the command counts before one
given in front of it. What is pending in front of the command is looked at after the command. -/
def ofArguments (env : Dict String String) (args : List String) : Except Stop Invocation := do
  let (before, rest) ← mainGrammar.read .nothing args
  match rest with
  | [] => throw .usage
  | "help" :: names => throw (help names)
  | command :: rest =>
    match commands.lookup command with
    | none => throw .usage
    | some (options, operands) =>
      let own := grammar options operands
      let (given, _) ← own.read .nothing rest
      let given ← own.settle given
      let before ← mainGrammar.settle before
      match task? env command given with
      | none => throw .usage
      | some task => return ⟨(given.value? "config").or (before.value? "config"), task⟩

end Invocation

end ClusterGate.Cli
