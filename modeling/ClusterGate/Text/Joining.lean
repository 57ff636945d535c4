import ClusterGate.Text.Mark

/-!
# Cursive joining

In scripts that join their letters a letter takes another shape before and after the letters it
joins. Marks between two letters do not keep them apart.
-/

namespace ClusterGate.Text

/-- The code points that join on both sides: joining type `D`. -/
def dualJoiningRanges : List (Nat × Nat) :=
  [(0x0620, 0x0620), (0x0626, 0x0626), (0x0628, 0x0628), (0x062A, 0x062E), (0x0633, 0x063F),
    (0x0641, 0x0647), (0x0649, 0x064A), (0x066E, 0x066F), (0x0678, 0x0687), (0x069A, 0x06BF),
    (0x06C1, 0x06C2), (0x06CC, 0x06CC), (0x06CE, 0x06CE), (0x06D0, 0x06D1), (0x06FA, 0x06FC),
    (0x06FF, 0x06FF), (0x0712, 0x0714), (0x071A, 0x071D), (0x071F, 0x0727), (0x0729, 0x0729),
    (0x072B, 0x072B), (0x072D, 0x072E), (0x074E, 0x0758), (0x075C, 0x076A), (0x076D, 0x0770),
    (0x0772, 0x0772), (0x0775, 0x0777), (0x077A, 0x077F), (0x07CA, 0x07EA), (0x0841, 0x0845),
    (0x0848, 0x0848), (0x084A, 0x0853), (0x0855, 0x0855), (0x0860, 0x0860), (0x0862, 0x0865),
    (0x0868, 0x0868), (0x0886, 0x0886), (0x0889, 0x088D), (0x08A0, 0x08A9), (0x08AF, 0x08B0),
    (0x08B3, 0x08B8), (0x08BA, 0x08C8), (0x1807, 0x1807), (0x1820, 0x1878), (0x1887, 0x18A8),
    (0x18AA, 0x18AA), (0xA840, 0xA871), (0x010AC0, 0x010AC4), (0x010AD3, 0x010AD6),
    (0x010AD8, 0x010ADC), (0x010ADE, 0x010AE0), (0x010AEB, 0x010AEE), (0x010B80, 0x010B80),
    (0x010B82, 0x010B82), (0x010B86, 0x010B88), (0x010B8A, 0x010B8B), (0x010B8D, 0x010B8D),
    (0x010B90, 0x010B90), (0x010BAD, 0x010BAE), (0x010D01, 0x010D21), (0x010D23, 0x010D23),
    (0x010F30, 0x010F32), (0x010F34, 0x010F44), (0x010F51, 0x010F53), (0x010F70, 0x010F73),
    (0x010F76, 0x010F81), (0x010FB0, 0x010FB0), (0x010FB2, 0x010FB3), (0x010FB8, 0x010FB8),
    (0x010FBB, 0x010FBC), (0x010FBE, 0x010FBF), (0x010FC1, 0x010FC1), (0x010FC4, 0x010FC4),
    (0x010FCA, 0x010FCA), (0x01E900, 0x01E943)]

/-- The code points that join the letter before them only: joining type `R`. -/
def backJoiningRanges : List (Nat × Nat) :=
  [(0x0622, 0x0625), (0x0627, 0x0627), (0x0629, 0x0629), (0x062F, 0x0632), (0x0648, 0x0648),
    (0x0671, 0x0673), (0x0675, 0x0677), (0x0688, 0x0699), (0x06C0, 0x06C0), (0x06C3, 0x06CB),
    (0x06CD, 0x06CD), (0x06CF, 0x06CF), (0x06D2, 0x06D3), (0x06D5, 0x06D5), (0x06EE, 0x06EF),
    (0x0710, 0x0710), (0x0715, 0x0719), (0x071E, 0x071E), (0x0728, 0x0728), (0x072A, 0x072A),
    (0x072C, 0x072C), (0x072F, 0x072F), (0x074D, 0x074D), (0x0759, 0x075B), (0x076B, 0x076C),
    (0x0771, 0x0771), (0x0773, 0x0774), (0x0778, 0x0779), (0x0840, 0x0840), (0x0846, 0x0847),
    (0x0849, 0x0849), (0x0854, 0x0854), (0x0856, 0x0858), (0x0867, 0x0867), (0x0869, 0x086A),
    (0x0870, 0x0882), (0x088E, 0x088E), (0x08AA, 0x08AC), (0x08AE, 0x08AE), (0x08B1, 0x08B2),
    (0x08B9, 0x08B9), (0x010AC5, 0x010AC5), (0x010AC7, 0x010AC7), (0x010AC9, 0x010ACA),
    (0x010ACE, 0x010AD2), (0x010ADD, 0x010ADD), (0x010AE1, 0x010AE1), (0x010AE4, 0x010AE4),
    (0x010AEF, 0x010AEF), (0x010B81, 0x010B81), (0x010B83, 0x010B85), (0x010B89, 0x010B89),
    (0x010B8C, 0x010B8C), (0x010B8E, 0x010B8F), (0x010B91, 0x010B91), (0x010BA9, 0x010BAC),
    (0x010D22, 0x010D22), (0x010F33, 0x010F33), (0x010F54, 0x010F54), (0x010F74, 0x010F75),
    (0x010FB4, 0x010FB6), (0x010FB9, 0x010FBA), (0x010FBD, 0x010FBD), (0x010FC2, 0x010FC3),
    (0x010FC9, 0x010FC9)]

/-- The code points that join the letter after them only: joining type `L`. -/
def forwardJoiningRanges : List (Nat × Nat) :=
  [(0xA872, 0xA872), (0x010ACD, 0x010ACD), (0x010AD7, 0x010AD7), (0x010D00, 0x010D00),
    (0x010FCB, 0x010FCB)]

/-- The letter that marks pass through as if it were one. -/
def passedLetter : Char := Char.ofNat 0x1E94B

/-- The code points of the signs that take the vowel from a consonant: combining class 9. -/
def viramaRanges : List (Nat × Nat) :=
  [(0x094D, 0x094D), (0x09CD, 0x09CD), (0x0A4D, 0x0A4D), (0x0ACD, 0x0ACD), (0x0B4D, 0x0B4D),
    (0x0BCD, 0x0BCD), (0x0C4D, 0x0C4D), (0x0CCD, 0x0CCD), (0x0D3B, 0x0D3C), (0x0D4D, 0x0D4D),
    (0x0DCA, 0x0DCA), (0x0E3A, 0x0E3A), (0x0EBA, 0x0EBA), (0x0F84, 0x0F84), (0x1039, 0x103A),
    (0x1714, 0x1715), (0x1734, 0x1734), (0x17D2, 0x17D2), (0x1A60, 0x1A60), (0x1B44, 0x1B44),
    (0x1BAA, 0x1BAB), (0x1BF2, 0x1BF3), (0x2D7F, 0x2D7F), (0xA806, 0xA806), (0xA82C, 0xA82C),
    (0xA8C4, 0xA8C4), (0xA953, 0xA953), (0xA9C0, 0xA9C0), (0xAAF6, 0xAAF6), (0xABED, 0xABED),
    (0x010A3F, 0x010A3F), (0x011046, 0x011046), (0x011070, 0x011070), (0x01107F, 0x01107F),
    (0x0110B9, 0x0110B9), (0x011133, 0x011134), (0x0111C0, 0x0111C0), (0x011235, 0x011235),
    (0x0112EA, 0x0112EA), (0x01134D, 0x01134D), (0x0113CE, 0x0113D0), (0x011442, 0x011442),
    (0x0114C2, 0x0114C2), (0x0115BF, 0x0115BF), (0x01163F, 0x01163F), (0x0116B6, 0x0116B6),
    (0x01172B, 0x01172B), (0x011839, 0x011839), (0x01193D, 0x01193E), (0x0119E0, 0x0119E0),
    (0x011A34, 0x011A34), (0x011A47, 0x011A47), (0x011A99, 0x011A99), (0x011C3F, 0x011C3F),
    (0x011D44, 0x011D45), (0x011D97, 0x011D97), (0x011F41, 0x011F42), (0x01612F, 0x01612F)]

/-- The character does not keep its neighbours from joining. -/
def isPassed (c : Char) : Bool := isNonspacingMark c || c = passedLetter

def joinsForward (c : Char) : Bool :=
  within dualJoiningRanges c.toNat || within forwardJoiningRanges c.toNat

def joinsBack (c : Char) : Bool :=
  within dualJoiningRanges c.toNat || within backJoiningRanges c.toNat

def isVirama (c : Char) : Bool := within viramaRanges c.toNat

end ClusterGate.Text
