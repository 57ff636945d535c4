import ClusterGate.Config
import ClusterGate.Yaml.Document

/-!
# Configurations from documents

A configuration document is a mapping from the names of settings to their values. Settings that are
left out have their defaults, an empty document leaves out all of them, and names that are none of
the four are skipped with whatever they carry. A setting that is given twice is an error, and so is
a value that is not of the setting's kind: for a text every scalar is, for the interval only a whole
number that is not quoted.
-/

namespace ClusterGate

/-- Why no configuration could be had from a document. -/
inductive LoadError
  /-- There is no file, or it holds no text. -/
  | unreadable
  | malformed (fault : Yaml.Fault)
  /-- The document, a name in it, or the value of a setting is of the wrong kind. -/
  | wrongKind
  /-- A setting is given twice. -/
  | duplicate (name : String)
  | unusable (fault : ConfigFault)
  deriving DecidableEq, Repr

namespace Config

/-! ### Values of settings -/

def nullSpellings : List String := ["null", "Null", "NULL", "~"]

def nullTag : String := "tag:yaml.org,2002:null"

def integerTag : String := "tag:yaml.org,2002:int"

/-- The scalar that a node is or stands for. -/
def scalarOf (d : Yaml.Document) : Yaml.Node → Except LoadError Yaml.Scalar
  | .scalar s => .ok s
  | .alias n =>
    match d.target? n with
    | some (.scalar s) => .ok s
    | _ => .error .wrongKind
  | _ => .error .wrongKind

/-- A text that has to be there. -/
def textOf (d : Yaml.Document) (node : Yaml.Node) : Except LoadError String :=
  return (← scalarOf d node).text

/-- A text that may be missing. It is when the scalar is plain, has no tag and is empty or spells a
missing value. The tag of missing values allows these spellings only. -/
def optionalTextOf (d : Yaml.Document) (node : Yaml.Node) : Except LoadError (Option String) := do
  let s ← scalarOf d node
  let spelled := nullSpellings.contains s.text
  if s.style ≠ .plain then return some s.text
  -- A plain text may stand for a missing value, and with the tag for one it has to.
  match s.tag with
  | none => return if s.text.isEmpty || spelled then none else some s.text
  | some tag =>
    if tag ≠ nullTag then return some s.text
    else if spelled then return none
    else throw .wrongKind

/-- The value of one digit or more in a base. -/
def digitsIn (base : Nat) (digits : List Char) : Option Nat :=
  if digits.isEmpty then none
  else digits.foldlM (fun n c => (Text.hexValue? c).bind fun d =>
    if d < base then some (base * n + d) else none) 0

/-- A whole number as documents write it: in base ten without leading zeros, or in base sixteen,
eight or two. A plus sign may stand first. -/
def wholeNumber? (text : List Char) : Option Nat :=
  let unsigned := match text with
    | '+' :: r => r
    | _ => text
  match unsigned with
  | '0' :: 'x' :: r => digitsIn 16 r
  | '0' :: 'o' :: r => digitsIn 8 r
  | '0' :: 'b' :: r => digitsIn 2 r
  | '0' :: _ :: _ => none
  | _ => digitsIn 10 unsigned

/-- A number of seconds. It is a plain scalar, or a literal block with the tag of whole numbers. -/
def secondsOf (d : Yaml.Document) (node : Yaml.Node) : Except LoadError Nat := do
  let s ← scalarOf d node
  let mayBe := s.style = .plain || (s.style = .literal && s.tag == some integerTag)
  match wholeNumber? s.text.toList with
  | some n => if mayBe && n < secondsBound then return n else throw .wrongKind
  | none => throw .wrongKind

/-! ### Documents -/

def entriesOf (d : Yaml.Document) : Except LoadError (List (String × Yaml.Node)) :=
  match d.root with
  | .mapping _ entries => entries.mapM fun e => return (← textOf d e.1, e.2)
  | .scalar s => if s.style = .plain && s.text.isEmpty then .ok [] else .error .wrongKind
  | _ => .error .wrongKind

/-- The value of a setting, or its default where it is left out. -/
def setting {α : Type} (entries : List (String × Yaml.Node)) (name : String) (default : α)
    (read : Yaml.Node → Except LoadError α) : Except LoadError α :=
  match entries.filter (·.1 = name) with
  | [] => .ok default
  | [e] => read e.2
  | _ => .error (.duplicate name)

/-- The configuration that a document holds, usable or not. -/
def ofDocument (d : Yaml.Document) : Except LoadError Config := do
  let entries ← entriesOf d
  return {
    preferredAz :=
      ← setting entries Properties.preferredAz default.preferredAz (optionalTextOf d)
    hostAzMap := ← setting entries Properties.hostAzMap default.hostAzMap (optionalTextOf d)
    checkInterval := ← setting entries Properties.checkInterval default.checkInterval (secondsOf d)
    commandNamespace :=
      ← setting entries Properties.commandNamespace default.commandNamespace (textOf d) }

/-- Read the configuration that a text holds. It has to be usable. -/
def ofText (text : String) : Except LoadError Config := do
  let document ← (Yaml.Document.ofText text).mapError .malformed
  let config ← document.elim (.ok default) ofDocument
  config.validate.mapError .unusable
  return config

/-- Read the configuration that a file holds, given its bytes if it is there. -/
def ofFile (bytes : Option ByteArray) : Except LoadError Config :=
  match bytes.bind String.fromUTF8? with
  | some text => ofText text
  | none => .error .unreadable

end Config

end ClusterGate
