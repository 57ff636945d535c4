import ClusterGate.Command
import ClusterGate.Text.Decimal
import ClusterGate.Zone.Settings

/-!
# Configuration

The library is configured once, from a document or from connection properties. Properties overlay a
configuration: a property counts when it is not blank, and the check interval in addition has to be
a whole number of seconds below 2 ^ 64. A property that does not count leaves its setting as it is,
so properties never make a configuration invalid.
-/

namespace ClusterGate

abbrev Properties := Dict String String

namespace Properties

def preferredAz : String := "preferredAz"

def hostAzMap : String := "hostAzMap"

def checkInterval : String := "writeForwardingCheckIntervalSecs"

def commandNamespace : String := "commandNamespace"

/-- The value of a property without blank characters at its ends. A blank value is none. -/
def effective? (props : Properties) (key : String) : Option String :=
  (props.get? key).bind Text.nonBlank?

end Properties

structure Config where
  preferredAz : Option String
  /-- The text of the host map. -/
  hostAzMap : Option String
  /-- For how many seconds the outcome of a write-forwarding probe is believed. -/
  checkInterval : Nat
  /-- The namespace of the control command, as it was given. -/
  commandNamespace : String
  deriving DecidableEq, Repr

inductive ConfigFault
  | blankNamespace
  deriving DecidableEq, Repr

def ConfigFault.message : ConfigFault → String
  | .blankNamespace => "Configuration error: commandNamespace must not be empty"

namespace Config

/-- Whole numbers of seconds lie below this number. -/
def secondsBound : Nat := Nat.pow 2 64

def default : Config where
  preferredAz := none
  hostAzMap := none
  checkInterval := 60
  commandNamespace := Command.defaultNamespace

instance : Inhabited Config := ⟨default⟩

/-- The interval that properties ask for, or why theirs is not taken. -/
def interval? (props : Properties) : Option (String × Except Text.DecimalFault Nat) :=
  (props.effective? Properties.checkInterval).map fun raw =>
    (raw, Text.readDecimal secondsBound raw.toList)

def merge (config : Config) (props : Properties) : Config where
  preferredAz := (props.effective? Properties.preferredAz).or config.preferredAz
  hostAzMap := (props.effective? Properties.hostAzMap).or config.hostAzMap
  -- An interval that cannot be read leaves the one that was there.
  checkInterval := ((interval? props).bind (·.2.toOption)).getD config.checkInterval
  commandNamespace :=
    (props.effective? Properties.commandNamespace).getD config.commandNamespace

def mergeNotices (props : Properties) : List LogEntry :=
  match interval? props with
  | some (raw, .error fault) =>
    [Log.warn ("Ignoring invalid " ++ Properties.checkInterval ++ " property")
      [("value", .text raw), ("error", .text fault.message)]]
  | _ => []

def ofProperties (props : Properties) : Config := default.merge props

/-- A configuration can be used when its namespace is not blank. -/
def validate (config : Config) : Except ConfigFault Unit :=
  if Text.allBlank config.commandNamespace.toList then .error .blankNamespace else .ok ()

def zones (config : Config) : ZoneSettings := .ofText config.preferredAz config.hostAzMap

def zonesNotices (config : Config) : List LogEntry := ZoneSettings.ofTextNotices config.hostAzMap

/-- The check interval in nanoseconds, the unit of the clock. -/
def intervalNanos (config : Config) : Nat := config.checkInterval * Nat.pow 10 9

end Config

end ClusterGate
