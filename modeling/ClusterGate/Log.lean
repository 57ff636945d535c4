/-!
# Log entries

What the library has to say while it works is returned as a list of entries, in order.
-/

namespace ClusterGate

inductive Level
  | error
  | warn
  | info
  | debug
  deriving DecidableEq, Repr

def Level.name : Level → String
  | error => "ERROR"
  | warn => "WARN"
  | info => "INFO"
  | debug => "DEBUG"

/-- A value logged under a name. -/
inductive FieldValue
  | text (s : String)
  | flag (b : Bool)
  | count (n : Nat)
  deriving DecidableEq, Repr

instance : Coe String FieldValue := ⟨.text⟩

instance : Coe Bool FieldValue := ⟨.flag⟩

instance : Coe Nat FieldValue := ⟨.count⟩

structure LogEntry where
  level : Level
  message : String
  fields : List (String × FieldValue)
  deriving DecidableEq, Repr

def FieldValue.plain : FieldValue → String
  | text s => s
  | flag b => toString b
  | count n => toString n

def LogEntry.line (e : LogEntry) : String :=
  " ".intercalate (e.level.name :: e.message :: e.fields.map fun f => f.1 ++ "=" ++ f.2.plain)

namespace Log

def error (message : String) (fields : List (String × FieldValue)) : LogEntry :=
  ⟨.error, message, fields⟩

def warn (message : String) (fields : List (String × FieldValue)) : LogEntry :=
  ⟨.warn, message, fields⟩

def info (message : String) (fields : List (String × FieldValue)) : LogEntry :=
  ⟨.info, message, fields⟩

def debug (message : String) (fields : List (String × FieldValue)) : LogEntry :=
  ⟨.debug, message, fields⟩

end Log

end ClusterGate
