import ClusterGate.Log
import ClusterGate.Text.Blank
import ClusterGate.Text.Fold

/-!
# The control command

Strict-writer mode is switched by a statement of the form

    SET SESSION <namespace>.strict_writer = 'true'

Keywords and namespace are read ignoring case, blank characters may stand around the words and the
equals sign, and either quote is optional and may be single or double. The whole text has to have
this form: a batch of statements is no command. `recognise` reads the text from the left, each part
by a function that returns what is left after it.

A namespace may be of any length. An engine that compiles the form into an automaton may refuse a
namespace that makes it too large; what is said here is said for those that it does not refuse.
-/

namespace ClusterGate

/-- The namespace of the control command: a text without blank characters at its ends, and not
empty. -/
structure Namespace where
  text : String
  deriving DecidableEq, Repr

/-- The namespace holds nothing but blank characters. -/
structure EmptyNamespace where
  deriving DecidableEq, Repr

def EmptyNamespace.message (_ : EmptyNamespace) : String := "command namespace must not be empty"

def Namespace.ofText (s : String) : Except EmptyNamespace Namespace :=
  match Text.nonBlank? s with
  | some text => .ok ⟨text⟩
  | none => .error {}

namespace Command

def defaultNamespace : String := "aws_advanced_jdbc"

/-- The session attribute that holds the mode. -/
def modeAttribute : String := "strict-writer"

/-- The value of the session attribute for a command that switches the mode on or off. -/
def modeValue (enabled : Bool) : String := if enabled then "true" else "false"

/-- The text that a command is sent as. -/
def statement (namespaceText value : String) : String :=
  "SET SESSION " ++ namespaceText ++ ".strict_writer = '" ++ value ++ "'"

/-! ### Parts of the command -/

/-- What is left after one or more blank characters. -/
def afterGap? : List Char → Option (List Char)
  | c :: r => if Text.isBlank c then some (Text.skipBlank r) else none
  | [] => none

def afterEquals? : List Char → Option (List Char)
  | '=' :: r => some r
  | _ => none

/-- What is left after a quote, which may be missing. -/
def skipQuote : List Char → List Char
  | '\'' :: r => r
  | '"' :: r => r
  | cs => cs

/-- The mode named by a literal, and what is left after it. -/
def literal? (cs : List Char) : Option (Bool × List Char) :=
  match Text.afterLiteral? "true".toList cs with
  | some rest => some (true, rest)
  | none => (Text.afterLiteral? "false".toList cs).map (false, ·)

/-- The quoted literal that ends the command. -/
def value? (cs : List Char) : Option Bool := do
  let (enabled, rest) ← literal? (skipQuote (Text.skipBlank cs))
  if Text.allBlank (skipQuote rest) then some enabled else none

/-- The mode that a statement asks for, if it is a command in this namespace. -/
def recognise (space : Namespace) (sql : List Char) : Option Bool := do
  let cs ← Text.afterLiteral? "SET".toList (Text.skipBlank sql)
  let cs ← afterGap? cs
  let cs ← Text.afterLiteral? "SESSION".toList cs
  let cs ← afterGap? cs
  let cs ← Text.afterLiteral? space.text.toList cs
  let cs ← Text.afterLiteral? ".strict_writer".toList cs
  let cs ← afterEquals? (Text.skipBlank cs)
  value? cs

def detect (space : Namespace) (sql : String) : Option Bool := recognise space sql.toList

def detectNotices : Option Bool → List LogEntry
  | some enabled => [Log.debug "Strict-writer command detected" [("enabled", .flag enabled)]]
  | none => []

end Command

end ClusterGate
