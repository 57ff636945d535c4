import ClusterGate.Driver.Result

/-!
# Calls on a driver connection

A request is a call with its arguments, and `Request.Value` is the type of what it answers. A method
is a call without its arguments.
-/

namespace ClusterGate

inductive Method
  | execute
  | executeQuery
  | executeUpdate
  | executeLargeUpdate
  | commit
  | rollback
  | setAutoCommit
  | close
  | isValid
  deriving DecidableEq, Repr

namespace Method

def name : Method → String
  | execute => "execute"
  | executeQuery => "executeQuery"
  | executeUpdate => "executeUpdate"
  | executeLargeUpdate => "executeLargeUpdate"
  | commit => "commit"
  | rollback => "rollback"
  | setAutoCommit => "setAutoCommit"
  | close => "close"
  | isValid => "isValid"

def all : List Method :=
  [execute, executeQuery, executeUpdate, executeLargeUpdate, commit, rollback, setAutoCommit, close,
    isValid]

def ofName? (s : String) : Option Method := all.find? (·.name == s)

/-- Calls of this method are intercepted. -/
def isSubscribed : Method → Bool
  | isValid => false
  | _ => true

/-- Calls of this method run a statement, so the strict-writer rule speaks about them. -/
def runsStatement : Method → Bool
  | execute | executeQuery | executeUpdate | executeLargeUpdate => true
  | _ => false

/-- The statement of a call of this method may be a control command. -/
def acceptsCommand : Method → Bool
  | execute | executeUpdate | executeLargeUpdate => true
  | _ => false

end Method

/-- The kinds of values that calls answer. -/
inductive Shape
  | flag
  | count
  | largeCount
  | nothing
  | rows
  deriving DecidableEq, Repr

namespace Shape

/-- The values of a kind. -/
@[reducible] def Value : Shape → Type
  | flag => Bool
  | count => Int
  | largeCount => Int
  | nothing => Unit
  | rows => QueryResult

/-- The value that acknowledges a consumed control command. Kinds without one let the command
through to the driver. -/
def acknowledgement : (s : Shape) → Option s.Value
  | flag => some false
  | count => some (0 : Int)
  | largeCount => some (0 : Int)
  | nothing => none
  | rows => none

end Shape

inductive Request
  | execute (sql : String)
  | executeQuery (sql : String)
  | executeUpdate (sql : String)
  | executeLargeUpdate (sql : String)
  | commit
  | rollback
  | setAutoCommit (enabled : Bool)
  | close
  | isValid
  deriving DecidableEq, Repr

namespace Request

def method : Request → Method
  | execute _ => .execute
  | executeQuery _ => .executeQuery
  | executeUpdate _ => .executeUpdate
  | executeLargeUpdate _ => .executeLargeUpdate
  | commit => .commit
  | rollback => .rollback
  | setAutoCommit _ => .setAutoCommit
  | close => .close
  | isValid => .isValid

def sql? : Request → Option String
  | execute sql | executeQuery sql | executeUpdate sql | executeLargeUpdate sql => some sql
  | _ => none

/-- The kind of value that the call answers. -/
@[reducible] def shape : Request → Shape
  | execute _ => .flag
  | executeQuery _ => .rows
  | executeUpdate _ => .count
  | executeLargeUpdate _ => .largeCount
  | commit | rollback | setAutoCommit _ | close => .nothing
  | isValid => .flag

abbrev Value (r : Request) : Type := r.shape.Value

end Request

end ClusterGate
