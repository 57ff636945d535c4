import ClusterGate.Text.Composition
import ClusterGate.Text.Direction
import ClusterGate.Text.Joining
import ClusterGate.Url.Address
import ClusterGate.Url.Image
import ClusterGate.Url.Punycode

/-!
# Names of hosts

The hosts of the web have names in all scripts. A name is read by replacing its characters by their
images; what comes out has to keep the rules for labels: no label begins with a mark, joiners stand
between letters that they concern, and where a label runs from the right, the characters of all
labels go together. A name whose last label is a number is an address.
-/

namespace ClusterGate.Url

/-! ### Labels -/

/-- The characters that may not stand in the name of a host, besides control characters and the
space. -/
def forbiddenInDomain : List Char :=
  ['%', '#', '/', ':', '<', '>', '?', '@', '[', '\\', ']', '^', '|', '\x7F']

def isForbidden (c : Char) : Bool := c.toNat ≤ 0x20 || forbiddenInDomain.contains c

def isAscii (c : Char) : Bool := c.toNat < 0x80

/-- What a label stands for. One in Punycode has to stand for what it would be written for: other
characters than ASCII are among them, all stand for themselves, and they are composed. -/
def label? (label : List Char) : Option (List Char) :=
  match label with
  | 'x' :: 'n' :: '-' :: '-' :: r =>
    if !r.all isAscii then none
    else
      match Punycode.decode? r with
      | some cs =>
        if !cs.all isAscii && cs.all standsForItself && Text.composed cs = cs then some cs else none
      | none => none
  | cs => some cs

/-! ### Joiners -/

/-- The first character that is not passed has a property. -/
def reaches (joins : Char → Bool) (cs : List Char) : Bool :=
  (cs.dropWhile Text.isPassed).head?.any joins

/-- A joiner may stand after these characters, the last one first, and before those. After a virama
it may always stand; one that keeps letters apart may also stand where they would join. -/
def joinerStands (joiner : Char) (before after : List Char) : Bool :=
  before.head?.any Text.isVirama ||
    (joiner = '\u200C' && reaches Text.joinsForward before && reaches Text.joinsBack after)

/-- All joiners of a text may stand where they are, after these characters. -/
def joinersStand (before : List Char) : List Char → Bool
  | [] => true
  | c :: r => (!joiners.contains c || joinerStands c before r) && joinersStand (c :: before) r

/-! ### Directions -/

/-- The directions of a label, without the marks at its end. -/
def directions (label : List Char) : List Text.Direction :=
  ((label.map Text.direction).reverse.dropWhile (· = .mark)).reverse

/-- The label runs in one direction. Digits of both kinds do not go together. -/
def isDirected (label : List Char) : Bool :=
  let all := label.map Text.direction
  let ending := (directions label).getLast?
  match all.head? with
  | none => true
  | some .right =>
    !all.contains .left && !(all.contains .digit && all.contains .rightDigit) &&
      ending.any fun d => d = .right || d = .digit || d = .rightDigit
  | some .left =>
    !all.contains .right && !all.contains .rightDigit && ending.any fun d => d = .left || d = .digit
  | some _ => false

/-- The text has characters of a script from the right. -/
def runsFromRight (label : List Char) : Bool :=
  label.any fun c => Text.direction c = .right || Text.direction c = .rightDigit

/-! ### Names -/

/-- The labels of a name that characters have been replaced in, if all keep the rules. -/
def isName (name : List Char) : Bool :=
  match (Text.pieces '.' name).mapM label? with
  | none => false
  | some read =>
    !name.any isForbidden && read.all (fun l => !l.head?.any Text.isMark && joinersStand [] l) &&
      (!read.any runsFromRight || read.all isDirected)

def isDomain (text : String) : Bool :=
  match text.toList.mapM image? with
  | none => false
  | some images =>
    let name := Text.composed images.flatten
    !name.isEmpty && isName name && (!endsInNumber name || isLaxV4 name)

end ClusterGate.Url
