import ClusterGate.Pattern.Escape
import ClusterGate.Text.Letter
import ClusterGate.Text.Split

/-!
# Groups in patterns

A group may have a name, or begin with letters that change how it is read. Letters without a group
change how what follows is read.
-/

namespace ClusterGate.Pattern

/-- What a parenthesis opens. -/
inductive Opened
  /-- A group that is read in these modes. -/
  | group (modes : Modes) (name : Option (List Char))
  /-- What follows is read in these modes. -/
  | modes (modes : Modes)

def modeLetters : List Char := ['i', 'm', 's', 'U', 'u', 'R', 'x']

/-- The letter is given, and whether it stands before a hyphen. -/
def setting? (letters : List Char) (letter : Char) : Option Bool :=
  if letters.contains letter then some (Text.upTo '-' letters |>.contains letter) else none

/-- The modes after some letters. Those after a hyphen are turned off. -/
def Modes.after (m : Modes) (letters : List Char) : Modes where
  spaced := (setting? letters 'x').getD m.spaced
  unicode := (setting? letters 'u').getD m.unicode

/-- The letters change something: each is known, none is given twice, and one follows a hyphen. -/
def areModes (letters : List Char) : Bool :=
  letters.all (fun c => c = '-' || modeLetters.contains c) && decide letters.Nodup &&
    letters.getLast? != some '-'

/-- The name of a group: no digit in front, and no characters but letters, digits, points, brackets
and underscores. -/
def isGroupName : List Char → Bool
  | [] => false
  | c :: r =>
    (c = '_' || Text.isAlphabetic c) &&
      r.all fun d => d = '_' || d = '.' || d = '[' || d = ']' || Text.isAlphanumeric d

/-- Read the name of a group up to the bracket after it. -/
def groupName? (cs : List Char) : Option (List Char × List Char) := do
  let (name, rest) ← Text.cut? '>' cs
  if isGroupName name then return (name, rest) else none

/-- Read what follows a parenthesis. Looking ahead or back is not understood. -/
def opened? (m : Modes) (cs : List Char) : Option (Opened × List Char) :=
  match m.skip cs with
  | '?' :: '=' :: _ | '?' :: '!' :: _ | '?' :: '<' :: '=' :: _ | '?' :: '<' :: '!' :: _ => none
  | '?' :: 'P' :: '<' :: r | '?' :: '<' :: r =>
    (groupName? r).map fun p => (.group m (some p.1), p.2)
  | '?' :: r =>
    let letters := r.takeWhile fun c => c ≠ ':' && c ≠ ')'
    if !areModes letters then none
    else
      match r.drop letters.length with
      | ':' :: rest => some (.group (m.after letters) none, rest)
      | ')' :: rest => if letters.isEmpty then none else some (.modes (m.after letters), rest)
      | _ => none
  | r => some (.group m none, r)

end ClusterGate.Pattern
