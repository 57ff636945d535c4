import ClusterGate.Url.Domain
import ClusterGate.Url.Path
import ClusterGate.Url.Percent

/-!
# URLs

A URL is a scheme and, after a colon, an authority with a user and a host, a path and a query. The
authority is never left out in the schemes of the web, and may be in those of files, which have a
host only. `Url.parse?` keeps the parts as they are written, so percent encodings are still to be
decoded.
-/

namespace ClusterGate

structure Url where
  user : List Char
  password : List Char
  /-- Empty where there is none. -/
  host : List Char
  port : Option Nat
  /-- The path without slashes at its beginning. -/
  path : List Char
  query : List Char
  deriving DecidableEq, Repr

namespace Url

/-! ### Parts -/

def webSchemes : List (String × Nat) :=
  [("http", 80), ("https", 443), ("ws", 80), ("wss", 443), ("ftp", 21)]

def forbiddenInHost : List Char :=
  ['\x00', '\t', '\n', '\r', ' ', '#', '/', ':', '<', '>', '?', '@', '[', '\\', ']', '^', '|']

/-- The host may stand in a URL. Between brackets it is an address of groups. Schemes of the web and
files want a name or an address; elsewhere a host is any text. -/
def isHost (family : Family) (host : List Char) : Bool :=
  match host with
  | '[' :: r => r.getLast? == some ']' && isV6 r.dropLast
  | _ =>
    if family.isSpecial then (decode? host).any isDomain
    else host.all fun c => !forbiddenInHost.contains c

def endsAuthority (family : Family) (c : Char) : Bool :=
  c = '/' || c = '?' || c = '#' || (family.isSpecial && c = '\\')

/-- The part of an authority up to the colon before a port. Colons between brackets are none. -/
def hostPart : (bracketed : Bool) → List Char → List Char
  | _, [] => []
  | bracketed, c :: r =>
    if c = ':' && !bracketed then []
    else c :: hostPart (if c = '[' then true else if c = ']' then false else bracketed) r

def portBound : Nat := 65536

def port? (cs : List Char) : Option (Option Nat × List Char) :=
  let digits := cs.takeWhile Char.isDigit
  let rest := cs.drop digits.length
  let n := Text.digitsValue digits
  if portBound ≤ n then none
  else if rest.head?.any fun c => !endsAuthority .web c then none
  else some (if digits.isEmpty then none else some n, rest)

/-- The text up to a query or a fragment. -/
def beforeQuery (cs : List Char) : List Char := cs.takeWhile fun c => c ≠ '?' && c ≠ '#'

/-- The query of a text that starts after the path. -/
def queryOf (cs : List Char) : List Char :=
  match cs with
  | '?' :: r => Text.upTo '#' r
  | _ => []

/-! ### The families of schemes -/

/-- A URL without authority. `after` is what follows the path. -/
def plain (path after : List Char) : Url := ⟨[], [], [], none, path, queryOf after⟩

/-- Read a URL from its authority on. -/
def withAuthority? (family : Family) (cs : List Char) : Option Url := do
  let authority := cs.takeWhile fun c => !endsAuthority family c
  let rest := cs.drop authority.length
  let (login, address) := (Text.cutAtLast? '@' authority).getD ([], authority)
  let (user, password) := (Text.cut? ':' login).getD (login, [])
  let host := hostPart false address
  let marked := authority.contains '@'
  let named := !(user.isEmpty && password.isEmpty)
  if marked && login.isEmpty && address.isEmpty && !rest.isEmpty then none
  if host.isEmpty && (family.isSpecial || named || address.head? == some ':') then none
  if !isHost family host then none
  let (port, more) ←
    match address.drop host.length with
    | ':' :: digits => port? digits
    | _ => some (none, [])
  let rest := more ++ rest
  let path := beforeQuery rest
  let query := queryOf (rest.drop path.length)
  return ⟨user, password, host, port, pathText family rootSlash path, query⟩

/-- The URL of a file, from its path on. -/
def ofFilePath (root cs : List Char) : Url :=
  let path := beforeQuery cs
  plain (pathText .file root path) (cs.drop path.length)

def isSlash (c : Char) : Bool := c = '/' || c = '\\'

/-- Read the URL of a file. A host follows two slashes, if it is not the name of a drive. -/
def ofFile? (cs : List Char) : Option Url :=
  match cs with
  | a :: b :: r =>
    let host := r.takeWhile fun c => !endsAuthority .file c
    if !(isSlash a && isSlash b) then some (ofFilePath rootSlash cs)
    else if isDrive host then some (ofFilePath rootSlash r)
    else if host.isEmpty || isHost .file host then
      some { ofFilePath hostSlashes (r.drop host.length) with host }
    else none
  | _ => some (ofFilePath rootSlash cs)

/-- Read a URL that is neither of the web nor of a file. Without authority, what does not begin with
a slash is no path of segments. -/
def ofOther? (cs : List Char) : Option Url :=
  let path := beforeQuery cs
  let after := cs.drop path.length
  match cs with
  | '/' :: '/' :: r => withAuthority? .other r
  | '/' :: _ => some (plain (pathText .other rootSlash path) after)
  | _ => some (plain path after)

/-- The scheme of a URL, in small letters, and what follows its colon. -/
def scheme? (cs : List Char) : Option (String × List Char) := do
  let (scheme, rest) ← Text.cut? ':' cs
  if !(scheme.head?.any Char.isAlpha) then none
  if !scheme.all fun c => c.isAlphanum || c = '+' || c = '-' || c = '.' then none
  return (String.ofList (scheme.map Char.toLower), rest)

/-- Control characters and spaces around a URL, and tabs and line breaks inside of it, mean nothing.
-/
def significant (cs : List Char) : List Char :=
  let outer (c : Char) : Bool := c.toNat ≤ 0x20
  let inner := ((cs.dropWhile outer).reverse.dropWhile outer).reverse
  inner.filter fun c => c ≠ '\t' && c ≠ '\n' && c ≠ '\r'

/-- Read a URL. The port of a scheme is not told apart from none. -/
def parse? (text : String) : Option Url := do
  let (scheme, rest) ← scheme? (significant text.toList)
  if scheme = "file" then ofFile? rest
  else
    match webSchemes.lookup scheme with
    | some own =>
      let url ← withAuthority? .web (rest.dropWhile isSlash)
      return { url with port := if url.port == some own then none else url.port }
    | none => ofOther? rest

end Url

end ClusterGate
