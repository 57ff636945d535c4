import ClusterGate.Text.Mark

/-!
# The direction of characters

Some scripts are written from the right to the left. Digits, marks and punctuation take part in
texts of both directions. The classes are coarse: letters of all scripts from the right are one
class, and so are all characters without a direction of their own. The tables speak of the
characters that names of hosts are made of; ranges run on over others that lie between them.
-/

namespace ClusterGate.Text

/-- How a character takes part in a text of two directions. -/
inductive Direction
  | left
  | right
  | digit
  /-- A digit of the scripts from the right. -/
  | rightDigit
  | mark
  | neutral
  deriving DecidableEq, Repr

/-- The code points of the bidirectional classes `R` and `AL`. -/
def rightRanges : List (Nat × Nat) :=
  [(0x05BE, 0x05BE), (0x05C0, 0x05C0), (0x05C3, 0x05C3), (0x05C6, 0x05C6), (0x05D0, 0x05F4),
    (0x0608, 0x0608), (0x060B, 0x060B), (0x060D, 0x060D), (0x061B, 0x064A), (0x066D, 0x066F),
    (0x0671, 0x06D5), (0x06E5, 0x06E6), (0x06EE, 0x06EF), (0x06FA, 0x0710), (0x0712, 0x072F),
    (0x074D, 0x07A5), (0x07B1, 0x07EA), (0x07F4, 0x07F5), (0x07FA, 0x07FA), (0x07FE, 0x0815),
    (0x081A, 0x081A), (0x0824, 0x0824), (0x0828, 0x0828), (0x0830, 0x0858), (0x085E, 0x088F),
    (0x08A0, 0x08C9), (0xFBB2, 0xFBD2), (0xFD90, 0xFDCE), (0xFE73, 0xFE73), (0x010800, 0x01091B),
    (0x010920, 0x010A00), (0x010A10, 0x010A35), (0x010A40, 0x010AE4), (0x010AEB, 0x010B35),
    (0x010B40, 0x010D23), (0x010D40, 0x010D4F), (0x010D6F, 0x010D8F), (0x010E80, 0x010EA9),
    (0x010EAD, 0x010EC7), (0x010F00, 0x010F45), (0x010F51, 0x010F81), (0x010F86, 0x010FF6),
    (0x01E800, 0x01E8CF), (0x01E922, 0x01E943), (0x01E94B, 0x01ED3D)]

/-- The code points of the class `AN`. -/
def rightDigitRanges : List (Nat × Nat) :=
  [(0x0660, 0x0669), (0x066B, 0x066C), (0x010D30, 0x010D39), (0x010E60, 0x010E7E)]

/-- The code points of the class `EN`. -/
def digitRanges : List (Nat × Nat) :=
  [(0x30, 0x39), (0x06F0, 0x06F9), (0x0102E1, 0x0102FB)]

/-- The code points of the classes `ES`, `CS`, `ET`, `ON` and `BN`, and the white space of ASCII.
-/
def neutralRanges : List (Nat × Nat) :=
  [(0x00, 0x2F), (0x3A, 0x40), (0x5B, 0x60), (0x7B, 0xD7), (0xF7, 0xF7), (0x02B9, 0x02BA),
    (0x02C2, 0x02CF), (0x02D2, 0x02ED), (0x02EF, 0x02FF), (0x0375, 0x0375), (0x03F6, 0x03F6),
    (0x058A, 0x058F), (0x0606, 0x0607), (0x0609, 0x060A), (0x060C, 0x060C), (0x060E, 0x060F),
    (0x066A, 0x066A), (0x06DE, 0x06DE), (0x06E9, 0x06E9), (0x07F6, 0x07F9), (0x09F2, 0x09F3),
    (0x09FB, 0x09FB), (0x0AF1, 0x0AF1), (0x0BF3, 0x0BFA), (0x0C78, 0x0C7E), (0x0E3F, 0x0E3F),
    (0x0F3A, 0x0F3D), (0x1390, 0x1399), (0x1400, 0x1400), (0x169B, 0x169C), (0x17DB, 0x17DB),
    (0x17F0, 0x180A), (0x1940, 0x1945), (0x19DE, 0x19FF), (0x1B4E, 0x1B4F), (0x1B7F, 0x1B7F),
    (0x200C, 0x20C1), (0x2104, 0x214D), (0x218A, 0x2335), (0x237B, 0x2394), (0x2396, 0x26AB),
    (0x26AD, 0x27FF), (0x2900, 0x2BFF), (0x2CE5, 0x2CEA), (0x2CF9, 0x2CFF), (0x2E00, 0x3004),
    (0x3008, 0x3020), (0x3030, 0x3030), (0x3037, 0x3037), (0x303D, 0x303F), (0x30A0, 0x30A0),
    (0x30FB, 0x30FB), (0x31C0, 0x31E5), (0x4DC0, 0x4DFF), (0xA490, 0xA4C6), (0xA60D, 0xA60F),
    (0xA673, 0xA673), (0xA67E, 0xA67F), (0xA700, 0xA721), (0xA788, 0xA788), (0xA828, 0xA82B),
    (0xA838, 0xA839), (0xA874, 0xA877), (0xAB6A, 0xAB6B), (0xFD3E, 0xFD4F), (0xFDCF, 0xFDFF),
    (0xFE45, 0xFE46), (0x010101, 0x010101), (0x010140, 0x01018C), (0x010190, 0x0101A0),
    (0x01091F, 0x01091F), (0x010B39, 0x010B3F), (0x010D6E, 0x010D6E), (0x010ED0, 0x010ED8),
    (0x011052, 0x011065), (0x0113D4, 0x0113D8), (0x011660, 0x01166C), (0x011BE1, 0x011BE1),
    (0x011FD5, 0x011FF1), (0x016D6D, 0x016D6F), (0x016FE2, 0x016FE2), (0x01CC00, 0x01CEF0),
    (0x01D1E9, 0x01D241), (0x01D245, 0x01D245), (0x01D300, 0x01D356), (0x01E2FF, 0x01E2FF),
    (0x01E5FF, 0x01E5FF), (0x01EEF0, 0x01F12F), (0x01F16D, 0x01F16F), (0x01F1AD, 0x01F1AD),
    (0x01F260, 0x01FBFA)]

/-- Marks without a width that count as letters. -/
def leftMarkRanges : List (Nat × Nat) :=
  [(0x0CBF, 0x0CBF), (0x0CC6, 0x0CC6), (0x011A07, 0x011A08), (0x011C3F, 0x011C3F)]

def direction (c : Char) : Direction :=
  let n := c.toNat
  if isNonspacingMark c && !within leftMarkRanges n then .mark
  else if within digitRanges n then .digit
  else if within rightDigitRanges n then .rightDigit
  else if within neutralRanges n then .neutral
  else if within rightRanges n then .right
  else .left

end ClusterGate.Text
