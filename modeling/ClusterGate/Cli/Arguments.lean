import ClusterGate.Dict
import ClusterGate.Text.Split

/-!
# Reading a command line

Options are named by two dashes, and their values follow as the next argument or after an equals
sign. Other arguments are operands. Arguments are read from the left, and the first one that is
wrong, or that asks for help, decides. A value in an argument of its own is looked at when the next
option or operand comes, or at the end.
-/

namespace ClusterGate.Cli

/-- What a command line comes to where it is not carried out. -/
inductive Stop
  /-- It is wrong. -/
  | usage
  /-- It asks for help or for the version. -/
  | help
  deriving DecidableEq, Repr

def Stop.exitCode : Stop → Nat
  | usage => 2
  | help => 0

/-- What follows the name of an option. -/
inductive Taking
  | nothing
  | value (accepts : String → Bool)

structure OptionSpec where
  name : String
  taking : Taking

/-- How an option is given. -/
def OptionSpec.usage (o : OptionSpec) : String :=
  "[--" ++ o.name ++ (match o.taking with
    | .nothing => ""
    | .value _ => " <VALUE>") ++ "]"

/-- What was read of a command line. -/
structure Given where
  values : Dict String String
  switches : List String
  operands : List String
  /-- The last option and its value, if it has not been looked at. -/
  pending : Option (String × String)
  deriving DecidableEq, Repr

namespace Given

def nothing : Given := ⟨∅, [], [], none⟩

def value? (g : Given) (name : String) : Option String := g.values.get? name

def isOn (g : Given) (name : String) : Bool := g.switches.contains name

/-- Take in the value of an option, which may be given once. -/
def withValue (g : Given) (name value : String) (accepts : String → Bool) : Except Stop Given :=
  if g.values.contains name || !accepts value then .error .usage
  else .ok { g with values := g.values.insert name value }

/-- Take in an option without a value, which may be given once. -/
def withSwitch (g : Given) (name : String) : Except Stop Given :=
  if g.isOn name then .error .usage else .ok { g with switches := name :: g.switches }

/-- Take in an operand, of which there may be `most`. -/
def withOperand (g : Given) (most : Nat) (operand : String) : Except Stop Given :=
  if g.operands.length < most then .ok { g with operands := g.operands ++ [operand] }
  else .error .usage

end Given

/-- What a command understands. -/
structure Grammar where
  options : List OptionSpec
  /-- How many operands there may be. -/
  operands : Nat
  /-- The version may be asked for. -/
  versioned : Bool
  /-- Reading ends before the first operand. -/
  stopsAtOperand : Bool

/-- How an argument looks. -/
inductive Argument
  /-- Two dashes alone: operands follow. -/
  | dashes
  | long (name : String) (value : Option String)
  /-- The letters after a single dash. -/
  | short (letters : List Char)
  | operand
  deriving DecidableEq, Repr

def Argument.ofText (a : String) : Argument :=
  match a.toList with
  | ['-', '-'] => .dashes
  | '-' :: '-' :: r =>
    match Text.cut? '=' r with
    | some (name, value) => .long (String.ofList name) (some (String.ofList value))
    | none => .long (String.ofList r) none
  | '-' :: c :: r => .short (c :: r)
  | _ => .operand

namespace Grammar

/-- What letters after a dash come to. Help and version are the only ones. -/
def short (g : Grammar) : List Char → Stop
  | 'h' :: _ => .help
  | 'V' :: _ => if g.versioned then .help else .usage
  | _ => .usage

def asksForHelp (g : Grammar) (name : String) : Bool :=
  name = "help" || (g.versioned && name = "version")

/-- What an option takes, if there is one of this name. -/
def taking? (g : Grammar) (name : String) : Option Taking :=
  (g.options.find? (·.name = name)).map OptionSpec.taking

def accepts (g : Grammar) (name value : String) : Bool :=
  match g.taking? name with
  | some (.value accepts) => accepts value
  | _ => false

/-- Look at the value that is pending. -/
def settle (g : Grammar) (given : Given) : Except Stop Given :=
  match given.pending with
  | some (name, value) => { given with pending := none }.withValue name value (g.accepts name)
  | none => .ok given

/-- Read arguments, and return those that are left. The last value may be pending. -/
def read (g : Grammar) : Given → List String → Except Stop (Given × List String)
  | given, [] => .ok (given, [])
  | given, a :: r =>
    match Argument.ofText a with
    | .dashes =>
      if g.stopsAtOperand then .ok (given, a :: r)
      else do
        let given ← g.settle given
        let given ← r.foldlM (fun given o => given.withOperand g.operands o) given
        return (given, [])
    | .short letters => do
      let _ ← g.settle given
      throw (g.short letters)
    | .operand =>
      if g.stopsAtOperand then .ok (given, a :: r)
      else do
        let given ← g.settle given
        let given ← given.withOperand g.operands a
        g.read given r
    | .long name value => do
      let given ← g.settle given
      if g.asksForHelp name then throw (if value.isSome then .usage else .help)
      else
        match g.taking? name, value, r with
        | some .nothing, none, r => do
          let given ← given.withSwitch name
          g.read given r
        | some (.value accepts), some v, r => do
          let given ← given.withValue name v accepts
          g.read given r
        | some (.value _), none, v :: r =>
          -- What looks like an option is no value of the option in front of it.
          if Argument.ofText v = .operand then g.read { given with pending := some (name, v) } r
          else throw .usage
        | _, _, _ => throw .usage

end Grammar

end ClusterGate.Cli
