/-!
# What driver calls answer
-/

namespace ClusterGate

inductive DriverError
  | connectFailed (host message : String)
  | queryFailed (message : String)
  | closed
  | unsupported (message : String)
  deriving DecidableEq, Repr

def DriverError.message : DriverError → String
  | .connectFailed host m => "failed to connect to " ++ host ++ ": " ++ m
  | .queryFailed m => "query failed: " ++ m
  | .closed => "connection is closed"
  | .unsupported m => "unsupported operation: " ++ m

/-- The rows that a query returned, every value as text and `none` for NULL. -/
structure QueryResult where
  columns : List String
  rows : List (List (Option String))
  deriving DecidableEq, Repr

namespace QueryResult

def empty : QueryResult := ⟨[], []⟩

def singleColumn (name : String) (values : List (Option String)) : QueryResult :=
  ⟨[name], values.map fun v => [v]⟩

def rowCount (r : QueryResult) : Nat := r.rows.length

def isEmpty (r : QueryResult) : Bool := r.rows.isEmpty

/-- The first value of the first row, unless it is NULL or missing. -/
def firstValue? (r : QueryResult) : Option String := do
  let row ← r.rows.head?
  let value ← row.head?
  value

end QueryResult

end ClusterGate
