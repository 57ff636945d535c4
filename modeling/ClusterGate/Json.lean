import ClusterGate.Dict

/-!
# JSON values and their text

The members of an object stand in the order of their names. There are two ways to write a value: on
one line without spaces, and one item a line with an indentation of two spaces.
-/

namespace ClusterGate

inductive Json
  | null
  | bool (b : Bool)
  | int (n : Int)
  /-- A number with a fraction or an exponent, as it is written. -/
  | real (text : String)
  | str (s : String)
  | arr (items : List Json)
  | obj (members : List (String × Json))
  deriving Repr

namespace Json

/-- An object. Of two members with one name the later counts. -/
def ofMembers (members : List (String × Json)) : Json := .obj (Dict.ofList members).entries

def ofText? (s : Option String) : Json := s.elim .null .str

/-! ### Strings -/

def hexDigit (n : Nat) : Char :=
  if n < 10 then Char.ofNat ('0'.toNat + n) else Char.ofNat ('a'.toNat + (n - 10))

def shortEscapes : List (Char × Char) :=
  [('"', '"'), ('\\', '\\'), ('\x08', 'b'), ('\x0C', 'f'), ('\n', 'n'), ('\r', 'r'), ('\t', 't')]

/-- A character as it stands in a string. -/
def escaped (c : Char) : List Char :=
  match shortEscapes.lookup c with
  | some e => ['\\', e]
  | none =>
    if c.toNat < 0x20 then ['\\', 'u', '0', '0', hexDigit (c.toNat / 16), hexDigit (c.toNat % 16)]
    else [c]

def quoted (s : String) : String := "\"" ++ String.ofList (s.toList.flatMap escaped) ++ "\""

/-! ### Values -/

mutual

/-- The value on one line. -/
def compact : Json → String
  | .null => "null"
  | .bool b => if b then "true" else "false"
  | .int n => toString n
  | .real text => text
  | .str s => quoted s
  | .arr items => "[" ++ ",".intercalate (compactItems items) ++ "]"
  | .obj members => "\x7b" ++ ",".intercalate (compactMembers members) ++ "\x7d"

def compactItems : List Json → List String
  | [] => []
  | v :: r => compact v :: compactItems r

def compactMembers : List (String × Json) → List String
  | [] => []
  | (name, v) :: r => (quoted name ++ ":" ++ compact v) :: compactMembers r

end

/-- Items between brackets, one a line. Without items the brackets stand together. -/
def block (opening closing : String) (depth : Nat) (items : List String) : String :=
  if items.isEmpty then opening ++ closing
  else
    let indent (n : Nat) := String.ofList (List.replicate (2 * n) ' ')
    opening ++ "\n" ++ ",\n".intercalate (items.map (indent (depth + 1) ++ ·)) ++ "\n" ++
      indent depth ++ closing

mutual

/-- The value with one item a line, inside of `depth` others. -/
def pretty (depth : Nat) : Json → String
  | .null => "null"
  | .bool b => if b then "true" else "false"
  | .int n => toString n
  | .real text => text
  | .str s => quoted s
  | .arr items => block "[" "]" depth (prettyItems (depth + 1) items)
  | .obj members => block "\x7b" "\x7d" depth (prettyMembers (depth + 1) members)

def prettyItems (depth : Nat) : List Json → List String
  | [] => []
  | v :: r => pretty depth v :: prettyItems depth r

def prettyMembers (depth : Nat) : List (String × Json) → List String
  | [] => []
  | (name, v) :: r => (quoted name ++ ": " ++ pretty depth v) :: prettyMembers depth r

end

end Json

end ClusterGate
