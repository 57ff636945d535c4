import ClusterGate.Text.Mark
import ClusterGate.Text.Printable

/-!
# Quoted text

A text between quotation marks shows each of its characters. Those that cannot be shown, and those
that would join the character in front of them, are given by their code points in braces.
-/

namespace ClusterGate.Text

def byCodePoint (c : Char) : List Char :=
  ['\\', 'u', '\x7b'] ++ Nat.toDigits 16 c.toNat ++ ['\x7d']

/-- A character as it stands between quotation marks. -/
def escaped (c : Char) : List Char :=
  match c with
  | '"' => ['\\', '"']
  | '\\' => ['\\', '\\']
  | '\n' => ['\\', 'n']
  | '\r' => ['\\', 'r']
  | '\t' => ['\\', 't']
  | '\x00' => ['\\', '0']
  | c => if extendsGrapheme c || !isPrintable c then byCodePoint c else [c]

def quoted (s : String) : String := "\"" ++ String.ofList (s.toList.flatMap escaped) ++ "\""

end ClusterGate.Text
