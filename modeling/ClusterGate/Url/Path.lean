import ClusterGate.Text.Split

/-!
# Paths of URLs

A path is read segment by segment. A segment of a dot stands for nothing, and one of two dots takes
the segment before it back. The name of a drive, a letter and a colon, is not taken back; at the
root of a file's path it may be written with a bar.
-/

namespace ClusterGate.Url

/-- The families of schemes: files, the schemes of the web, and all others. -/
inductive Family
  | file
  | web
  | other
  deriving DecidableEq, Repr

/-- In the URLs of the web and of files a backslash is as good as a slash. -/
def Family.isSpecial (f : Family) : Bool := f ≠ .other

/-! ### Drives -/

/-- A letter, and a colon or a bar. -/
def isDrive : List Char → Bool
  | [c, d] => c.isAlpha && (d = ':' || d = '|')
  | _ => false

/-- A letter and a colon. -/
def isPlainDrive (segment : List Char) : Bool := isDrive segment && segment.getLast? == some ':'

/-- The segment is the name of a drive, or goes on with a backslash after it. -/
def beginsWithDrive : List Char → Bool
  | c :: d :: r => isDrive [c, d] && r.head?.all (· = '\\')
  | _ => false

/-! ### Segments -/

/-- The spellings of a dot, in small letters. -/
def dot : List String := [".", "%2e"]

def isDot (segment : List Char) : Bool := dot.contains (String.ofList (segment.map Char.toLower))

def isTwoDots (segment : List Char) : Bool :=
  (dot.flatMap fun a => dot.map (a ++ ·)).contains (String.ofList (segment.map Char.toLower))

def endsWithSlash (path : List Char) : Bool := path.getLast? == some '/'

def withSlash (path : List Char) : List Char := if endsWithSlash path then path else path ++ ['/']

/-- The path without its last segment. A path of a file keeps a drive. -/
def withoutLast (family : Family) (path : List Char) : List Char :=
  match Text.cutAtLast? '/' path with
  | some (before, last) =>
    if family = .file && isPlainDrive last then path else before ++ ['/']
  | none => path

/-- The path, which ends with a slash, without it. The first slash stays, and so does one that ends
a drive. -/
def withoutSlash (path : List Char) : List Char :=
  match Text.cutAtLast? '/' path.dropLast with
  | some (_, last) => if beginsWithDrive last then path else path.dropLast
  | none => path

def rootSlash : List Char := ['/']

/-- Where the path of a file begins after a host, be it an empty one. A drive there is not at the
root. -/
def hostSlashes : List Char := ['/', '/']

/-- Add a segment to a path that ends with a slash. `closed` says that a slash follows it. -/
def addSegment (family : Family) (path segment : List Char) (closed : Bool) : List Char :=
  let slash := if closed then ['/'] else []
  if isTwoDots segment then
    let shorter := withoutLast family (withoutSlash path)
    if closed then withSlash shorter else shorter
  else if isDot segment then withSlash path
  else if family = .file && path = rootSlash && isDrive segment then
    path ++ segment.take 1 ++ [':'] ++ slash
  else path ++ segment ++ slash

/-- Add segments to a path. A slash stands between each two. -/
def addSegments (family : Family) (path : List Char) : List (List Char) → List Char
  | [] => path
  | [s] => addSegment family path s false
  | s :: r => addSegments family (addSegment family path s true) r

/-- The path that a text stands for after the slashes `root`, without slashes at its beginning. -/
def pathText (family : Family) (root cs : List Char) : List Char :=
  let cs := if family.isSpecial then cs.map fun c => if c = '\\' then '/' else c else cs
  let segments := Text.pieces '/' (if cs.head? == some '/' then cs.tail else cs)
  (addSegments family root segments).dropWhile (· = '/')

end ClusterGate.Url
