import ClusterGate.Config
import ClusterGate.Host
import ClusterGate.Text.Quoted
import ClusterGate.Url

/-!
# What a connection is opened with

The credentials and the database come from a database URL, and properties of a connection override
them; host and port always come from the host that is opened.
-/

namespace ClusterGate

namespace Properties

def user : String := "user"

def password : String := "password"

def database : String := "database"

end Properties

namespace Postgres

structure Target where
  user : Option String
  password : Option String
  database : Option String
  deriving DecidableEq, Repr

/-- What a server is asked with for a connection. Where nothing names a user, it is up to the server
side which account is asked for. -/
structure Login where
  host : String
  port : Nat
  user : Option String
  password : Option String
  database : Option String
  deriving DecidableEq, Repr

namespace Target

def encryptionModes : List String :=
  ["disable", "allow", "prefer", "require", "verify-ca", "verify-full"]

def isBelow (bound : Nat) (text : String) : Bool :=
  (Text.readDecimal bound text.toList).toOption.isSome

/-- Take over a parameter of the URL's query. One that is not known is skipped. -/
def parameter? (t : Target) (name value : String) : Option Target :=
  match name with
  | "user" => some { t with user := some value }
  | "password" => some { t with password := some value }
  | "dbname" => some { t with database := some value }
  | "sslmode" | "ssl-mode" =>
    if encryptionModes.any (Text.sameIgnoringCase · value) then some t else none
  | "statement-cache-capacity" => if isBelow (Nat.pow 2 64) value then some t else none
  | "port" => if isBelow Url.portBound value then some t else none
  | "hostaddr" => if Url.isV4 value.toList || Url.isV6 value.toList then some t else none
  | _ => some t

/-- The text of a part of a URL, where an empty part says nothing. -/
def part? (part : List Char) : Option (Option String) :=
  if part.isEmpty then some none else (Url.decode? part).map some

/-- A host that names a path has to be a text. -/
def hostIsText (host : List Char) : Bool :=
  (Url.bytes host).head? != some (UInt8.ofNat '/'.toNat) || (Url.decode? host).isSome

/-- Read a database URL. Its scheme, host and port are not looked at. -/
def ofUrl? (text : String) : Option Target := do
  let url ← Url.parse? text
  if !hostIsText url.host then none
  let user ← part? url.user
  let password ← part? url.password
  let database ← part? url.path
  -- Parameters count after what stands in front of them, so the last one of a name wins.
  (Url.queryPairs url.query).foldlM (fun t p => t.parameter? p.1 p.2) ⟨user, password, database⟩

/-- What a host is asked with, properties considered. -/
def login (t : Target) (host : HostSpec) (props : Properties) : Login where
  host := host.host
  port := host.port
  user := (props.effective? Properties.user).or t.user
  password := (props.effective? Properties.password).or t.password
  database := (props.effective? Properties.database).or t.database

/-- The target as messages show it. Credentials are left out. -/
def label (t : Target) : String :=
  let database := match t.database with
    | none => "None"
    | some name => "Some(" ++ Text.quoted name ++ ")"
  "PgDriver \x7b database: " ++ database ++ ", .. \x7d"

end Target

def Login.url (l : Login) : String :=
  "postgresql://" ++ l.host ++ ":" ++ toString l.port ++ "/" ++ l.database.getD ""

end Postgres

end ClusterGate
