import ClusterGate.Pattern.Depth
import ClusterGate.Pattern.Escape

/-!
# Sets in patterns

A set of characters is written between brackets: characters, ranges of them, sets with names and
other sets in brackets. Two ampersands, hyphens or tildes between two sets combine them.
-/

namespace ClusterGate.Pattern

def setNames : List String :=
  ["alnum", "alpha", "ascii", "blank", "cntrl", "digit", "graph", "lower", "print", "punct",
    "space", "upper", "word", "xdigit"]

/-- Read the name of a set between colons after the bracket. `true` says that a circumflex takes the
set away. -/
def setName? : List Char → Option (Bool × List Char)
  | ':' :: r =>
    let negated := r.head? == some '^'
    let r := if negated then r.tail else r
    let name := r.takeWhile (· ≠ ':')
    match r.drop name.length with
    | ':' :: ']' :: rest =>
      if setNames.contains (String.ofList name) then some (negated, rest) else none
    | _ => none
  | _ => none

/-- Read a character of a set, or something that stands for a set. -/
def member? (m : Modes) : List Char → Option (Escaped × List Char)
  | '\\' :: r => escape? m r
  | c :: r => some (.character c, r)
  | [] => none

/-- The character may stand in a set. -/
def Modes.allows (m : Modes) (c : Char) : Bool := m.unicode || c.toNat < 0x80

/-- The character after a hyphen. -/
def Modes.peek (m : Modes) (cs : List Char) : Option Char :=
  if m.spaced then
    let next := match Text.skipBlank cs with
      | '#' :: r => Text.skipBlank r
      | r => r
    next.head?.or cs.head?
  else cs.head?

/-- Read a member of a set or a range, and return what follows. A hyphen before the closing bracket
or before another one makes no range. -/
def range? (m : Modes) (cs : List Char) : Option (List Char) := do
  let (first, rest) ← member? m cs
  match m.skip rest with
  | [] => none
  | '-' :: r =>
    if m.peek r = some ']' || m.peek r = some '-' then alone first ('-' :: r)
    else
      let (last, rest) ← member? m (m.skip r)
      match first, last with
      | .character a, .character b =>
        if a ≤ b && m.allows a && m.allows b then some rest else none
      | _, _ => none
  | c :: r => alone first (c :: r)
where
  alone (e : Escaped) (rest : List Char) : Option (List Char) :=
    match e with
    | .character c => if m.allows c then some rest else none
    | .set => some rest
    | .place => none

/-- A set that is being read. -/
structure Open where
  /-- The depth of what stands before the last operator. -/
  combined : Option Nat
  /-- The depths of the members after it. -/
  members : List Nat

namespace Open

def empty : Open := ⟨none, []⟩

def add (o : Open) (depth : Nat) : Open := { o with members := depth :: o.members }

def depth (o : Open) : Nat :=
  match o.combined with
  | some d => max d (together o.members) + 1
  | none => together o.members

/-- Read an operator: what comes next is combined with what was read. -/
def combine (o : Open) : Open := ⟨some o.depth, []⟩

end Open

/-- Read the hyphens that a set begins with, and a closing bracket as its first member. -/
def firstMembers (m : Modes) : (fuel : Nat) → Open → List Char → Open × List Char
  | fuel + 1, o, '-' :: r => firstMembers m fuel (o.add 0) (m.skip r)
  | _, o, ']' :: r => if o.members.isEmpty then (o.add 0, m.skip r) else (o, ']' :: r)
  | _, o, cs => (o, cs)

/-- Read the beginning of a set after its bracket. A circumflex takes the set away, which sets of
bytes cannot be. -/
def opening? (m : Modes) (cs : List Char) : Option (Open × List Char) :=
  match m.skip cs with
  | '^' :: r =>
    if m.unicode then
      let r := m.skip r
      some (firstMembers m r.length .empty r)
    else none
  | r => some (firstMembers m r.length .empty r)

/-- Read a set from inside of it, with the sets around it, the inner one first. -/
def inside? (m : Modes) : (fuel : Nat) → List Open → Open → List Char → Option (Nat × List Char)
  | 0, _, _, _ => none
  | fuel + 1, around, o, cs =>
    match m.skip cs with
    | [] => none
    | '[' :: r =>
      match setName? r with
      | some (negated, rest) =>
        if negated && !m.unicode then none else inside? m fuel around (o.add 0) rest
      | none => do
        let (inner, rest) ← opening? m r
        inside? m fuel (o :: around) inner rest
    | ']' :: r =>
      match around with
      | [] => some (o.depth + 1, r)
      | outer :: around => inside? m fuel around (outer.add (o.depth + 1)) r
    | '&' :: '&' :: r | '-' :: '-' :: r | '~' :: '~' :: r => inside? m fuel around o.combine r
    | r => do
      let rest ← range? m r
      inside? m fuel around (o.add 0) rest

/-- Read a set after its bracket. The result is its depth and what follows. -/
def bracket? (m : Modes) (cs : List Char) : Option (Nat × List Char) := do
  let (o, rest) ← opening? m cs
  inside? m (rest.length + 1) [] o rest

end ClusterGate.Pattern
