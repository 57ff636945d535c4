import ClusterGate.Yaml.Token

/-!
# Documents

`Document.ofText` reads a text that holds at most one document. Tokens are read from the left, and
the form of every node is known from its first token. An alias stands for a node that was marked
before it; so that a node may contain an alias of itself, aliases are numbers, and a document lists
what they stand for.
-/

namespace ClusterGate.Yaml

/-- A text with its tag, if it has one, and the way it is written. An exclamation mark alone is no
tag of a text that is written. -/
structure Scalar where
  tag : Option String
  style : ScalarStyle
  text : String
  deriving DecidableEq, Repr

/-- What stands where a value is left out. -/
def Scalar.absent : Scalar := ⟨none, .plain, ""⟩

inductive Node
  | alias (number : Nat)
  | scalar (s : Scalar)
  | sequence (tag : Option String) (items : List Node)
  | mapping (tag : Option String) (entries : List (Node × Node))
  deriving Repr

/-- What an alias stands for. Of a collection nothing more is known. -/
inductive Target
  | scalar (s : Scalar)
  | collection
  deriving DecidableEq, Repr

structure Document where
  root : Node
  /-- What aliases stand for. Of two entries for one number, the first counts. -/
  targets : List (Nat × Target)
  deriving Repr

def Document.target? (d : Document) (number : Nat) : Option Target := d.targets.lookup number

/-! ### Reading nodes -/

/-- The tokens that are left, and what is known from those before. -/
structure Reader where
  tokens : List Token
  /-- What directives say about the handles of tags. -/
  handles : List (String × String)
  /-- The numbers of the anchors by name. -/
  names : List (String × Nat)
  targets : List (Nat × Target)

abbrev ReadM := StateT Reader (Except Fault)

namespace Reader

def peek? : ReadM (Option Token) := return (← get).tokens.head?

def skip : ReadM Unit := modify fun r => { r with tokens := r.tokens.tail }

/-- The next token is one of these. At the end it is none. -/
def isAt (ts : List Token) : ReadM Bool := return (← get).tokens.head?.any ts.contains

def expect (t : Token) : ReadM Unit := do
  if ← isAt [t] then skip else throw .unexpectedToken

/-- Give an anchor to a node. Its number is how many names are in use so far. -/
def mark (name : Option String) (target : Target) : ReadM Unit :=
  match name with
  | none => return
  | some name => modify fun r =>
    let number := r.names.length
    { r with
      names := (name, number) :: r.names.filter (·.1 ≠ name)
      targets := (number, target) :: r.targets }

def numberOf (name : String) : ReadM Nat := do
  match (← get).names.lookup name with
  | some number => return number
  | none => throw (.undefinedAlias name)

def anchor : ReadM (Option String) := do
  match ← peek? with
  | some (.anchor name) => skip; return some name
  | _ => return none

def tag : ReadM (Option TagName) := do
  match ← peek? with
  | some (.tag t) => skip; return some t
  | _ => return none

/-- Read the anchor and the tag before a node, in either order. -/
def marks : ReadM (Option String × Option String) := do
  let before ← anchor
  let t ← tag
  let after ← if before.isNone && t.isSome then anchor else pure none
  match t with
  | none => return (before, none)
  | some t =>
    match t.expand? (← get).handles with
    | some expanded => return (before.or after, some expanded)
    | none => throw .undefinedHandle

/-- The place of a node decides which collections it may be: in a flow collection only flow
collections, and the entries of a sequence without indentation of its own only as a key or value of
a block mapping. -/
inductive Place
  | flow
  | block
  | blockPair
  deriving DecidableEq, Repr

mutual

def node : (fuel : Nat) → Place → ReadM Node
  | 0, _ => throw .unexpectedToken
  | fuel + 1, place => do
    if let some (.alias name) ← peek? then
      skip
      return .alias (← numberOf name)
    let (name, tag) ← marks
    match ← peek? with
    | some (.scalar style text) =>
      skip
      let s : Scalar := ⟨tag.filter (· ≠ TagName.unspecific), style, text⟩
      mark name (.scalar s)
      return .scalar s
    | some .flowSequenceStart =>
      skip
      mark name .collection
      return .sequence tag (← flowItems fuel true)
    | some .flowMappingStart =>
      skip
      mark name .collection
      return .mapping tag (← flowPairs fuel true)
    | some .blockSequenceStart =>
      if place = .flow then missing name tag else
        skip
        mark name .collection
        return .sequence tag (← blockItems fuel)
    | some .blockMappingStart =>
      if place = .flow then missing name tag else
        skip
        mark name .collection
        return .mapping tag (← blockPairs fuel)
    | some .blockEntry =>
      if place = .blockPair then
        mark name .collection
        return .sequence tag (← looseItems fuel)
      else missing name tag
    | _ => missing name tag

/-- A node that is left out may be so only after an anchor or a tag. -/
def missing (name tag : Option String) : ReadM Node := do
  if name.isNone && tag.isNone then throw .unexpectedToken
  let s : Scalar := { Scalar.absent with tag }
  mark name (.scalar s)
  return .scalar s

/-- Read a node, unless one of these tokens shows that it is left out. -/
def nodeUnless : (fuel : Nat) → List Token → Place → ReadM Node
  | 0, _, _ => throw .unexpectedToken
  | fuel + 1, ts, place => do
    if ← isAt ts then return .scalar .absent else node fuel place

/-- Read the entries of a block sequence up to its end. -/
def blockItems : (fuel : Nat) → ReadM (List Node)
  | 0 => throw .unexpectedToken
  | fuel + 1 => do
    if ← isAt [.blockEnd] then
      skip
      return []
    expect .blockEntry
    let item ← nodeUnless fuel [.blockEntry, .blockEnd] .block
    return item :: (← blockItems fuel)

/-- Read the entries of a sequence that has no indentation of its own. -/
def looseItems : (fuel : Nat) → ReadM (List Node)
  | 0 => throw .unexpectedToken
  | fuel + 1 => do
    if !(← isAt [.blockEntry]) then return []
    skip
    let item ← nodeUnless fuel [.blockEntry, .key, .value, .blockEnd] .block
    return item :: (← looseItems fuel)

/-- Read the pairs of a block mapping up to its end. -/
def blockPairs : (fuel : Nat) → ReadM (List (Node × Node))
  | 0 => throw .unexpectedToken
  | fuel + 1 => do
    if ← isAt [.blockEnd] then
      skip
      return []
    expect .key
    let key ← nodeUnless fuel [.key, .value, .blockEnd] .blockPair
    let value ← valueAfter fuel [.key, .value, .blockEnd] .blockPair
    return (key, value) :: (← blockPairs fuel)

/-- Read the value of a pair, where one is left out if there is no colon or one of these tokens
follows the colon. -/
def valueAfter : (fuel : Nat) → List Token → Place → ReadM Node
  | 0, _, _ => throw .unexpectedToken
  | fuel + 1, ts, place => do
    if !(← isAt [.value]) then return .scalar .absent
    skip
    nodeUnless fuel ts place

/-- Read the items of a flow sequence up to its end. Commas stand between them, and one may stand
after the last. An item may be a single pair. -/
def flowItems : (fuel : Nat) → (first : Bool) → ReadM (List Node)
  | 0, _ => throw .unexpectedToken
  | fuel + 1, first => do
    if ← isAt [.flowSequenceEnd] then
      skip
      return []
    if !first then
      expect .flowEntry
      if ← isAt [.flowSequenceEnd] then
        skip
        return []
    let item ←
      if ← isAt [.key] then
        skip
        singlePair fuel
      else node fuel .flow
    return item :: (← flowItems fuel false)

/-- Read a pair that is an item of a flow sequence. A token that shows the key to be left out is
moved over with it. -/
def singlePair : (fuel : Nat) → ReadM Node
  | 0 => throw .unexpectedToken
  | fuel + 1 => do
    let key ←
      if ← isAt [.value, .flowEntry, .flowSequenceEnd] then
        skip
        pure (Node.scalar .absent)
      else node fuel .flow
    let value ← valueAfter fuel [.flowEntry, .flowSequenceEnd] .flow
    return .mapping none [(key, value)]

/-- Read the pairs of a flow mapping up to its end. Commas stand between them, and one may stand
after the last. A node alone is a key. -/
def flowPairs : (fuel : Nat) → (first : Bool) → ReadM (List (Node × Node))
  | 0, _ => throw .unexpectedToken
  | fuel + 1, first => do
    if ← isAt [.flowMappingEnd] then
      skip
      return []
    if !first then
      expect .flowEntry
      if ← isAt [.flowMappingEnd] then
        skip
        return []
    if ← isAt [.key] then
      skip
      let key ← nodeUnless fuel [.value, .flowEntry, .flowMappingEnd] .flow
      let value ← valueAfter fuel [.flowEntry, .flowMappingEnd] .flow
      return (key, value) :: (← flowPairs fuel false)
    else
      let key ← node fuel .flow
      return (key, .scalar .absent) :: (← flowPairs fuel false)

end

/-- A fuel that no document exhausts: between two tokens that are moved over, at most three readers
are entered. -/
def fuel (r : Reader) : Nat := 4 * r.tokens.length + 4

/-! ### Reading documents -/

/-- Read the directives before a document. -/
def directives : (ts : List Token) → List Directive × List Token
  | .directive d :: ts =>
    let (more, rest) := directives ts
    (d :: more, rest)
  | ts => ([], ts)

/-- Read the start of a document. Without directives the marker may be left out. Answer whether it
was there. -/
def documentStart : ReadM Bool := do
  let (ds, rest) := directives (← get).tokens
  match Directive.handles? ds with
  | none => throw .directive
  | some handles =>
    modify fun r => { r with tokens := rest, handles }
    if ← isAt [.documentStart] then
      skip
      return true
    else if ds.isEmpty then return false
    else throw .unexpectedToken

/-- After the marker, a document may be left out. -/
def root (marked : Bool) : ReadM Node := do
  let next ← peek?
  let ends := match next with
    | none | some (.directive _) | some .documentStart | some .documentEnd => true
    | _ => false
  if marked && ends then return .scalar .absent else node (← get).fuel .block

/-- Read a document, and end markers after it. -/
def document : ReadM Document := do
  let root ← root (← documentStart)
  modify fun r => { r with tokens := r.tokens.dropWhile (· = .documentEnd) }
  return { root, targets := (← get).targets }

end Reader

/-- Read a text that holds one document or, at most, comments. -/
def Document.ofText (text : String) : Except Fault (Option Document) := do
  let tokens ← Token.ofText text.toList
  if tokens.isEmpty then return none
  let (d, r) ← Reader.document.run ⟨tokens, [], [], []⟩
  if r.tokens.isEmpty then return some d else throw .severalDocuments

end ClusterGate.Yaml
