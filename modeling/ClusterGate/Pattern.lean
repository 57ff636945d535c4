import ClusterGate.Pattern.Bracket
import ClusterGate.Pattern.Group

/-!
# Patterns

A pattern describes a set of texts: characters, sets of characters and groups in a row, that may be
repeated, and rows to choose from. Nothing is matched here. `isWellFormed` tells which texts are
patterns that an automaton can be made of.
-/

namespace ClusterGate.Pattern

/-- A group that is being read, or the whole pattern. -/
structure Level where
  /-- The depths of the rows that are complete. -/
  rows : List Nat
  /-- The depths of the parts of the row that is being read, the last one first. A change of modes
  is a part without depth that cannot be repeated. -/
  parts : List (Option Nat)
  /-- How what follows the group is read. -/
  after : Modes

namespace Level

def start (after : Modes) : Level := ⟨[], [], after⟩

def add (l : Level) (part : Option Nat) : Level := { l with parts := part :: l.parts }

/-- The depth of the row that is being read. -/
def row (l : Level) : Nat := together (l.parts.map (·.getD 0))

def depth (l : Level) : Nat := together (l.row :: l.rows)

def alternative (l : Level) : Level := { l with rows := l.row :: l.rows, parts := [] }

def repeat? (l : Level) : Option Level :=
  match l.parts with
  | some d :: r => some { l with parts := some (d + 1) :: r }
  | _ => none

end Level

/-- How far a pattern is read. -/
structure Progress where
  level : Level
  /-- The groups around it, the inner one first. -/
  around : List Level
  modes : Modes
  /-- The names of groups. -/
  names : List (List Char)

namespace Progress

def start : Progress := ⟨.start .initial, [], .initial, []⟩

def add (p : Progress) (depth : Nat) : Progress := { p with level := p.level.add (some depth) }

/-- Enter what a parenthesis opens. Names of groups are given once. -/
def enter? (p : Progress) : Opened → Option Progress
  | .modes modes => some { p with level := p.level.add none, modes }
  | .group modes name =>
    if name.any p.names.contains then none
    else
      some { level := .start p.modes, around := p.level :: p.around, modes
             names := name.toList ++ p.names }

def leave? (p : Progress) : Option Progress :=
  match p.around with
  | [] => none
  | outer :: around =>
    some { p with level := outer.add (some (p.level.depth + 1)), around, modes := p.level.after }

/-- Read the next part of a pattern, from its first character on. Repetitions may be reluctant,
which a question mark says; there are none with counts. -/
def step? (p : Progress) (c : Char) (r : List Char) : Option (Progress × List Char) :=
  match c with
  | '(' => do
    let (opened, rest) ← opened? p.modes r
    return (← p.enter? opened, rest)
  | ')' => do return (← p.leave?, r)
  | '|' => some ({ p with level := p.level.alternative }, r)
  | '[' => do
    let (depth, rest) ← bracket? p.modes r
    return (p.add depth, rest)
  | '*' | '+' | '?' => do
    let level ← p.level.repeat?
    return ({ p with level }, if r.head? == some '?' then r.tail else r)
  | '{' => none
  | '\\' => do
    let (_, rest) ← escape? p.modes r
    return (p.add 0, rest)
  | '.' => if p.modes.unicode then some (p.add 0, r) else none
  | _ => some (p.add 0, r)

/-- Read a pattern to its end. The result is its depth. -/
def run? : (fuel : Nat) → Progress → List Char → Option Nat
  | 0, _, _ => none
  | fuel + 1, p, cs =>
    match p.modes.skip cs with
    | [] => if p.around.isEmpty then some p.level.depth else none
    | c :: r => do
      let (p, rest) ← p.step? c r
      run? fuel p rest

end Progress

/-- The text is a pattern. -/
def isWellFormed (cs : List Char) : Bool :=
  (Progress.run? (cs.length + 1) .start cs).any (· ≤ depthBound)

end ClusterGate.Pattern
