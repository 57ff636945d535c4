import ClusterGate.Log
import ClusterGate.Pattern
import ClusterGate.Text.Case

/-!
# Log filters

A filter is written as directives between commas. A directive names a level, or a place in the
program with or without a level: a module, a span in square brackets, and a field of the span in
braces. The field may have a value, a number or a pattern. The library logs from one place, so of a
filter only the most verbose level of its directives matters.
-/

namespace ClusterGate

inductive Verbosity
  | off
  | error
  | warn
  | info
  | debug
  | trace
  deriving DecidableEq, Repr

namespace Verbosity

def all : List Verbosity := [off, error, warn, info, debug, trace]

def name : Verbosity → String
  | off => "off"
  | error => "error"
  | warn => "warn"
  | info => "info"
  | debug => "debug"
  | trace => "trace"

def rank : Verbosity → Nat
  | off => 0
  | error => 1
  | warn => 2
  | info => 3
  | debug => 4
  | trace => 5

/-- The more verbose of two. -/
def join (a b : Verbosity) : Verbosity := if a.rank ≤ b.rank then b else a

def ofLevel : Level → Verbosity
  | .error => error
  | .warn => warn
  | .info => info
  | .debug => debug

def admits (v : Verbosity) (level : Level) : Bool := (ofLevel level).rank ≤ v.rank

/-- A level by its name in any ASCII case, or by its rank. -/
def ofWord? (word : List Char) : Option Verbosity :=
  match Text.readDecimal (Nat.pow 2 64) word with
  | .ok n => all.find? (·.rank = n)
  | .error _ => all.find? fun v => Text.sameIgnoringCase (String.ofList word) v.name

end Verbosity

namespace LogFilter

/-! ### Values of fields -/

def withoutSign : List Char → List Char
  | '+' :: r | '-' :: r => r
  | cs => cs

/-- The digits of an exponent follow, or nothing. -/
def isExponent : List Char → Bool
  | [] => true
  | c :: r =>
    let digits := withoutSign r
    c.toLower = 'e' && !digits.isEmpty && digits.all Char.isDigit

/-- The words for numbers that have no digits. -/
def numberWords : List String := ["inf", "infinity", "nan"]

/-- A number: digits with or without a point, and perhaps an exponent. -/
def isNumeral (cs : List Char) : Bool :=
  let cs := withoutSign cs
  let whole := cs.takeWhile Char.isDigit
  let rest := cs.drop whole.length
  let fraction := if rest.head? == some '.' then rest.tail.takeWhile Char.isDigit else []
  let rest := if rest.head? == some '.' then rest.drop (fraction.length + 1) else rest
  numberWords.any (Text.sameIgnoringCase · (String.ofList cs)) ||
    (!(whole.isEmpty && fraction.isEmpty) && isExponent rest)

/-- A field has a name, a value or both. -/
def isField (field : List Char) : Bool :=
  !field.isEmpty &&
    match Text.pieces '=' field with
    | _ :: value :: _ => isNumeral value || Pattern.isWellFormed value
    | _ => true

/-! ### Directives -/

/-- The level after an equals sign. Where it is left out, everything is logged. -/
def levelAfter (word : List Char) : Option Verbosity :=
  if word.isEmpty then some .trace else Verbosity.ofWord? word

def byteSize (cs : List Char) : Nat := cs.foldl (fun n c => n + c.utf8Size) 0

/-- The first bytes of a text and the text after them, if they are whole characters. -/
def splitBytes? : Nat → List Char → Option (List Char × List Char)
  | 0, cs => some ([], cs)
  | _ + 1, [] => none
  | n + 1, c :: r =>
    if c.utf8Size ≤ n + 1 then
      (splitBytes? (n + 1 - c.utf8Size) r).map fun p => (c :: p.1, p.2)
    else none

/-- A directive as it is read. Blank characters around it are no part of it, but levels and fields
are cut from the text with them, at the bytes where they stand without them. So a level with blank
characters is no level. -/
structure Directive where
  whole : List Char
  deriving DecidableEq, Repr

namespace Directive

def text (d : Directive) : List Char := Text.trim d.whole

/-- What is cut where an ending of the text begins. -/
def cut? (d : Directive) (ending : List Char) : Option (List Char) :=
  (splitBytes? (byteSize d.text - byteSize ending) d.whole).map Prod.snd

/-- The level that an ending of the text stands for. -/
def level (d : Directive) (ending : List Char) : Option Verbosity := do
  levelAfter (← d.cut? ending)

/-- The field at the beginning of an ending of the text. -/
def field? (d : Directive) (field ending : List Char) : Option (List Char) := do
  let (field, _) ← splitBytes? (byteSize field) (← d.cut? ending)
  return field

/-- Read what follows the name and the field of a span. -/
def afterSpan (d : Directive) : List Char → Option Verbosity
  | [']'] => some .trace
  | ']' :: '=' :: ending => d.level ending
  | _ => none

/-- Read a directive from where its span begins, after the bracket. A span with a wanted value of a
field is logged whatever its level is. -/
def span (d : Directive) (cs : List Char) : Option Verbosity :=
  match cs.dropWhile fun c => c ≠ ']' && c ≠ '\x7b' with
  | '\x7b' :: r => do
    let (inner, after) ← Text.cut? '\x7d' r
    let field ← d.field? inner r
    let level ← d.afterSpan after
    if !isField field then none
    return if field.contains '=' then .trace else level
  | rest => d.afterSpan rest

/-- The character may begin the name of a module. -/
def beginsName (c : Char) : Bool := Text.isAlphanumeric c || c = '-' || c = ':' || c = '_'

def verbosity? (d : Directive) : Option Verbosity :=
  match d.text with
  | [] => none
  | '[' :: r => d.span r
  | c :: r =>
    if !beginsName c then none
    else
      match (c :: r).dropWhile fun c => c ≠ '=' && c ≠ '[' with
      | [] => some ((Verbosity.ofWord? d.whole).getD .trace)
      | '=' :: ending => d.level ending
      | _ :: r => d.span r

end Directive

def default : Verbosity := .info

/-- The verbosity of a filter that is not blank. Without directives nothing is logged. -/
def ofText? (filter : String) : Option Verbosity := do
  let directives := (Text.pieces ',' filter.toList).filter fun d => !d.isEmpty
  let levels ← directives.mapM fun d => Directive.verbosity? ⟨d⟩
  return levels.foldl Verbosity.join .off

/-- The verbosity of a filter. One that is missing, blank or malformed has the default. -/
def verbosity (filter : Option String) : Verbosity :=
  match filter with
  | none => default
  | some text => if Text.allBlank text.toList then default else (ofText? text).getD default

end LogFilter

end ClusterGate
