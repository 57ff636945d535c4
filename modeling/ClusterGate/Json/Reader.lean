import ClusterGate.Json.Number

/-!
# Reading JSON texts
-/

namespace ClusterGate.Json

/-- The characters that may stand between the tokens of a text. -/
def isGap (c : Char) : Bool := c = ' ' || c = '\n' || c = '\t' || c = '\r'

def skipGap (cs : List Char) : List Char := cs.dropWhile isGap

/-- How deep arrays and objects may stand in each other, so that reading ends early on absurd texts.
-/
def depthBound : Nat := 127

/-! ### Strings -/

/-- The number of four hexadecimal digits, and what follows them. -/
def codeUnit? : List Char → Option (Nat × List Char)
  | a :: b :: c :: d :: r => do
    let values ← [a, b, c, d].mapM Text.hexValue?
    return (values.foldl (fun n v => 16 * n + v) 0, r)
  | _ => none

/-- Read what follows a backslash and the letter u. Characters beyond 16 bits are two code units. -/
def escapedUnit? (cs : List Char) : Option (Char × List Char) := do
  let (high, r) ← codeUnit? cs
  if high < 0xD800 || 0xDFFF < high then return (Char.ofNat high, r)
  match r with
  | '\\' :: 'u' :: r =>
    let (low, r) ← codeUnit? r
    if high < 0xDC00 && 0xDC00 ≤ low && low ≤ 0xDFFF then
      return (Char.ofNat (0x10000 + (high - 0xD800) * 0x400 + (low - 0xDC00)), r)
    else none
  | _ => none

/-- Read what follows a backslash. -/
def escape? : List Char → Option (Char × List Char)
  | 'u' :: r => escapedUnit? r
  | '/' :: r => some ('/', r)
  | c :: r => (shortEscapes.find? (·.2 = c)).map fun e => (e.1, r)
  | [] => none

/-- Read a string after its opening quote. -/
def string? : (fuel : Nat) → List Char → Option (List Char × List Char)
  | 0, _ => none
  | _ + 1, [] => none
  | _ + 1, '"' :: r => some ([], r)
  | fuel + 1, '\\' :: r => do
    let (c, r) ← escape? r
    let (more, r) ← string? fuel r
    return (c :: more, r)
  | fuel + 1, c :: r =>
    if c.toNat < 0x20 then none
    else do
      let (more, r) ← string? fuel r
      return (c :: more, r)

/-! ### Numbers -/

/-- Read digits, at least one. -/
def digits? (cs : List Char) : Option (List Char × List Char) :=
  let run := cs.takeWhile Char.isDigit
  if run.isEmpty then none else some (run, cs.drop run.length)

def sign (cs : List Char) : Bool × List Char :=
  match cs with
  | '-' :: r => (true, r)
  | '+' :: r => (false, r)
  | _ => (false, cs)

def exponent? (cs : List Char) : Option (Option Int × List Char) :=
  match cs with
  | c :: r =>
    if c = 'e' || c = 'E' then do
      let (negative, r) := sign r
      let (run, r) ← digits? r
      let n : Int := Text.digitsValue run
      return (some (if negative then -n else n), r)
    else some (none, cs)
  | [] => some (none, [])

/-- Read a number. Its whole part has no leading zeros. -/
def numeral? (cs : List Char) : Option (Numeral × List Char) := do
  let (negative, r) := match cs with
    | '-' :: r => (true, r)
    | _ => (false, cs)
  let (whole, r) ← digits? r
  if 1 < whole.length && whole.head? == some '0' then none
  let (fraction, r) ← match r with
    | '.' :: r => digits? r
    | _ => some ([], r)
  let (e, r) ← exponent? r
  return (⟨negative, whole, fraction, e.getD 0, !fraction.isEmpty || e.isSome⟩, r)

/-! ### Values -/

mutual

/-- Read a value inside of arrays and objects, of which `room` more may be opened. -/
def value? : (fuel : Nat) → (room : Nat) → List Char → Option (Json × List Char)
  | 0, _, _ => none
  | fuel + 1, room, cs =>
    match skipGap cs with
    | 'n' :: 'u' :: 'l' :: 'l' :: r => some (.null, r)
    | 't' :: 'r' :: 'u' :: 'e' :: r => some (.bool true, r)
    | 'f' :: 'a' :: 'l' :: 's' :: 'e' :: r => some (.bool false, r)
    | '"' :: r => (string? (r.length + 1) r).map fun p => (.str (String.ofList p.1), p.2)
    | '[' :: r =>
      if room = 0 then none
      else (items? fuel (room - 1) true r).map fun p => (.arr p.1, p.2)
    | '\x7b' :: r =>
      if room = 0 then none
      else (members? fuel (room - 1) true r).map fun p => (.ofMembers p.1, p.2)
    | cs => do
      let (n, r) ← numeral? cs
      return (← n.value?, r)

/-- Read the items of an array up to its end. -/
def items? : (fuel : Nat) → (room : Nat) → (first : Bool) → List Char →
    Option (List Json × List Char)
  | 0, _, _, _ => none
  | fuel + 1, room, first, cs => do
    let item (cs : List Char) : Option (List Json × List Char) := do
      let (v, r) ← value? fuel room cs
      let (more, r) ← items? fuel room false r
      return (v :: more, r)
    match skipGap cs with
    | ']' :: r => return ([], r)
    | ',' :: r => if first then none else item r
    | cs => if first then item cs else none

/-- Read the members of an object up to its end. -/
def members? : (fuel : Nat) → (room : Nat) → (first : Bool) → List Char →
    Option (List (String × Json) × List Char)
  | 0, _, _, _ => none
  | fuel + 1, room, first, cs => do
    let member (cs : List Char) : Option (List (String × Json) × List Char) := do
      let '"' :: r := skipGap cs | none
      let (name, r) ← string? (r.length + 1) r
      let ':' :: r := skipGap r | none
      let (v, r) ← value? fuel room r
      let (more, r) ← members? fuel room false r
      return ((String.ofList name, v) :: more, r)
    match skipGap cs with
    | '\x7d' :: r => return ([], r)
    | ',' :: r => if first then none else member r
    | cs => if first then member cs else none

end

/-- Read a text that holds one value. -/
def parse? (text : String) : Option Json := do
  let cs := text.toList
  let (v, rest) ← value? (2 * cs.length + 2) depthBound cs
  if (skipGap rest).isEmpty then some v else none

end ClusterGate.Json
