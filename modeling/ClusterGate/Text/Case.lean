/-!
# Case of letters

`sameIgnoringCase` folds the letters A to Z and nothing else. `upper` and `lower` are the Unicode
case mappings of single characters, of which one may become several, as far as a search for ASCII
letters can tell: they are exact on every character whose image holds an ASCII letter, and leave the
other characters as they are.
-/

namespace ClusterGate.Text

/-- The two texts differ at most in the case of the letters A to Z. -/
def sameIgnoringCase (a b : String) : Bool :=
  a.toList.map Char.toLower == b.toList.map Char.toLower

@[simp] theorem sameIgnoringCase_iff {a b : String} :
    sameIgnoringCase a b = true ↔ a.toList.map Char.toLower = b.toList.map Char.toLower := by
  simp [sameIgnoringCase]

/-- The characters outside ASCII whose upper case holds an ASCII letter. -/
def upperTable : List (Char × List Char) :=
  [('\u00DF', ['S', 'S']), ('\u0131', ['I']), ('\u0149', ['\u02BC', 'N']), ('\u017F', ['S']),
    ('\u01F0', ['J', '\u030C']), ('\u1E96', ['H', '\u0331']), ('\u1E97', ['T', '\u0308']),
    ('\u1E98', ['W', '\u030A']), ('\u1E99', ['Y', '\u030A']), ('\u1E9A', ['A', '\u02BE']),
    ('\uFB00', ['F', 'F']), ('\uFB01', ['F', 'I']), ('\uFB02', ['F', 'L']),
    ('\uFB03', ['F', 'F', 'I']), ('\uFB04', ['F', 'F', 'L']), ('\uFB05', ['S', 'T']),
    ('\uFB06', ['S', 'T'])]

/-- The characters outside ASCII whose lower case holds an ASCII letter. -/
def lowerTable : List (Char × List Char) :=
  [('\u0130', ['i', '\u0307']), ('\u212A', ['k'])]

/-- The upper case of a character, exact where it holds an ASCII letter. -/
def upper (c : Char) : List Char := (upperTable.lookup c).getD [c.toUpper]

/-- The lower case of a character, exact where it holds an ASCII letter. -/
def lower (c : Char) : List Char := (lowerTable.lookup c).getD [c.toLower]

end ClusterGate.Text
