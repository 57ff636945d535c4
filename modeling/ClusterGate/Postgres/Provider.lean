import ClusterGate.Driver
import ClusterGate.Text.Case
import ClusterGate.Text.Split

/-!
# Choosing and opening hosts

The provider decides which protocols the Postgres driver serves, and which host of a list a
connection goes to: the first one in the wanted role, or else the first one.
-/

namespace ClusterGate.Provider

def targetName : String := "auroraPgConnectionProvider"

/-- The protocol names the engine somewhere, in any case. -/
def acceptsProtocol (protocol : String) : Bool :=
  Text.contains "postgresql".toList (protocol.toList.flatMap Text.lower)

/-- Every strategy for choosing a host is accepted, and none of them changes the choice. -/
def acceptsStrategy (_role : HostRole) (_strategy : String) : Bool := true

/-- The host of a list that a connection in this role goes to. An empty list has none. -/
def choose (hosts : List HostSpec) (role : HostRole) : Option HostSpec :=
  (hosts.find? (·.role = role)).or hosts.head?

def emptyListMessage : String := "Host list cannot be empty"

def chooseNotices (hosts : List HostSpec) (role : HostRole) (strategy : String) : List LogEntry :=
  match choose hosts role with
  | none => []
  | some host =>
    [Log.debug "Selected host"
      [("role", .text role.text), ("strategy", .text strategy), ("host", .text host.text)]]

def connectMessage (protocol : String) (host : HostSpec) : String :=
  "Failed to connect to " ++ protocol ++ "//" ++ host.text ++ " with protocol " ++ protocol

end ClusterGate.Provider
