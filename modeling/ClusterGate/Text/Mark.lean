import ClusterGate.Text.Ranges

/-!
# Marks

A mark joins the character in front of it. Most have no width; those that have are the spacing
marks.
-/

namespace ClusterGate.Text

/-- The code points with the property `Grapheme_Extend`. -/
def extendingRanges : List (Nat × Nat) :=
  [(0x0300, 0x036F), (0x0483, 0x0489), (0x0591, 0x05BD), (0x05BF, 0x05BF), (0x05C1, 0x05C2),
    (0x05C4, 0x05C5), (0x05C7, 0x05C7), (0x0610, 0x061A), (0x064B, 0x065F), (0x0670, 0x0670),
    (0x06D6, 0x06DC), (0x06DF, 0x06E4), (0x06E7, 0x06E8), (0x06EA, 0x06ED), (0x0711, 0x0711),
    (0x0730, 0x074A), (0x07A6, 0x07B0), (0x07EB, 0x07F3), (0x07FD, 0x07FD), (0x0816, 0x0819),
    (0x081B, 0x0823), (0x0825, 0x0827), (0x0829, 0x082D), (0x0859, 0x085B), (0x0897, 0x089F),
    (0x08CA, 0x08E1), (0x08E3, 0x0902), (0x093A, 0x093A), (0x093C, 0x093C), (0x0941, 0x0948),
    (0x094D, 0x094D), (0x0951, 0x0957), (0x0962, 0x0963), (0x0981, 0x0981), (0x09BC, 0x09BC),
    (0x09BE, 0x09BE), (0x09C1, 0x09C4), (0x09CD, 0x09CD), (0x09D7, 0x09D7), (0x09E2, 0x09E3),
    (0x09FE, 0x09FE), (0x0A01, 0x0A02), (0x0A3C, 0x0A3C), (0x0A41, 0x0A42), (0x0A47, 0x0A48),
    (0x0A4B, 0x0A4D), (0x0A51, 0x0A51), (0x0A70, 0x0A71), (0x0A75, 0x0A75), (0x0A81, 0x0A82),
    (0x0ABC, 0x0ABC), (0x0AC1, 0x0AC5), (0x0AC7, 0x0AC8), (0x0ACD, 0x0ACD), (0x0AE2, 0x0AE3),
    (0x0AFA, 0x0AFF), (0x0B01, 0x0B01), (0x0B3C, 0x0B3C), (0x0B3E, 0x0B3F), (0x0B41, 0x0B44),
    (0x0B4D, 0x0B4D), (0x0B55, 0x0B57), (0x0B62, 0x0B63), (0x0B82, 0x0B82), (0x0BBE, 0x0BBE),
    (0x0BC0, 0x0BC0), (0x0BCD, 0x0BCD), (0x0BD7, 0x0BD7), (0x0C00, 0x0C00), (0x0C04, 0x0C04),
    (0x0C3C, 0x0C3C), (0x0C3E, 0x0C40), (0x0C46, 0x0C48), (0x0C4A, 0x0C4D), (0x0C55, 0x0C56),
    (0x0C62, 0x0C63), (0x0C81, 0x0C81), (0x0CBC, 0x0CBC), (0x0CBF, 0x0CC0), (0x0CC2, 0x0CC2),
    (0x0CC6, 0x0CC8), (0x0CCA, 0x0CCD), (0x0CD5, 0x0CD6), (0x0CE2, 0x0CE3), (0x0D00, 0x0D01),
    (0x0D3B, 0x0D3C), (0x0D3E, 0x0D3E), (0x0D41, 0x0D44), (0x0D4D, 0x0D4D), (0x0D57, 0x0D57),
    (0x0D62, 0x0D63), (0x0D81, 0x0D81), (0x0DCA, 0x0DCA), (0x0DCF, 0x0DCF), (0x0DD2, 0x0DD4),
    (0x0DD6, 0x0DD6), (0x0DDF, 0x0DDF), (0x0E31, 0x0E31), (0x0E34, 0x0E3A), (0x0E47, 0x0E4E),
    (0x0EB1, 0x0EB1), (0x0EB4, 0x0EBC), (0x0EC8, 0x0ECE), (0x0F18, 0x0F19), (0x0F35, 0x0F35),
    (0x0F37, 0x0F37), (0x0F39, 0x0F39), (0x0F71, 0x0F7E), (0x0F80, 0x0F84), (0x0F86, 0x0F87),
    (0x0F8D, 0x0F97), (0x0F99, 0x0FBC), (0x0FC6, 0x0FC6), (0x102D, 0x1030), (0x1032, 0x1037),
    (0x1039, 0x103A), (0x103D, 0x103E), (0x1058, 0x1059), (0x105E, 0x1060), (0x1071, 0x1074),
    (0x1082, 0x1082), (0x1085, 0x1086), (0x108D, 0x108D), (0x109D, 0x109D), (0x135D, 0x135F),
    (0x1712, 0x1715), (0x1732, 0x1734), (0x1752, 0x1753), (0x1772, 0x1773), (0x17B4, 0x17B5),
    (0x17B7, 0x17BD), (0x17C6, 0x17C6), (0x17C9, 0x17D3), (0x17DD, 0x17DD), (0x180B, 0x180D),
    (0x180F, 0x180F), (0x1885, 0x1886), (0x18A9, 0x18A9), (0x1920, 0x1922), (0x1927, 0x1928),
    (0x1932, 0x1932), (0x1939, 0x193B), (0x1A17, 0x1A18), (0x1A1B, 0x1A1B), (0x1A56, 0x1A56),
    (0x1A58, 0x1A5E), (0x1A60, 0x1A60), (0x1A62, 0x1A62), (0x1A65, 0x1A6C), (0x1A73, 0x1A7C),
    (0x1A7F, 0x1A7F), (0x1AB0, 0x1ADD), (0x1AE0, 0x1AEB), (0x1B00, 0x1B03), (0x1B34, 0x1B3D),
    (0x1B42, 0x1B44), (0x1B6B, 0x1B73), (0x1B80, 0x1B81), (0x1BA2, 0x1BA5), (0x1BA8, 0x1BAD),
    (0x1BE6, 0x1BE6), (0x1BE8, 0x1BE9), (0x1BED, 0x1BED), (0x1BEF, 0x1BF3), (0x1C2C, 0x1C33),
    (0x1C36, 0x1C37), (0x1CD0, 0x1CD2), (0x1CD4, 0x1CE0), (0x1CE2, 0x1CE8), (0x1CED, 0x1CED),
    (0x1CF4, 0x1CF4), (0x1CF8, 0x1CF9), (0x1DC0, 0x1DFF), (0x200C, 0x200C), (0x20D0, 0x20F0),
    (0x2CEF, 0x2CF1), (0x2D7F, 0x2D7F), (0x2DE0, 0x2DFF), (0x302A, 0x302F), (0x3099, 0x309A),
    (0xA66F, 0xA672), (0xA674, 0xA67D), (0xA69E, 0xA69F), (0xA6F0, 0xA6F1), (0xA802, 0xA802),
    (0xA806, 0xA806), (0xA80B, 0xA80B), (0xA825, 0xA826), (0xA82C, 0xA82C), (0xA8C4, 0xA8C5),
    (0xA8E0, 0xA8F1), (0xA8FF, 0xA8FF), (0xA926, 0xA92D), (0xA947, 0xA951), (0xA953, 0xA953),
    (0xA980, 0xA982), (0xA9B3, 0xA9B3), (0xA9B6, 0xA9B9), (0xA9BC, 0xA9BD), (0xA9C0, 0xA9C0),
    (0xA9E5, 0xA9E5), (0xAA29, 0xAA2E), (0xAA31, 0xAA32), (0xAA35, 0xAA36), (0xAA43, 0xAA43),
    (0xAA4C, 0xAA4C), (0xAA7C, 0xAA7C), (0xAAB0, 0xAAB0), (0xAAB2, 0xAAB4), (0xAAB7, 0xAAB8),
    (0xAABE, 0xAABF), (0xAAC1, 0xAAC1), (0xAAEC, 0xAAED), (0xAAF6, 0xAAF6), (0xABE5, 0xABE5),
    (0xABE8, 0xABE8), (0xABED, 0xABED), (0xFB1E, 0xFB1E), (0xFE00, 0xFE0F), (0xFE20, 0xFE2F),
    (0xFF9E, 0xFF9F), (0x0101FD, 0x0101FD), (0x0102E0, 0x0102E0), (0x010376, 0x01037A),
    (0x010A01, 0x010A03), (0x010A05, 0x010A06), (0x010A0C, 0x010A0F), (0x010A38, 0x010A3A),
    (0x010A3F, 0x010A3F), (0x010AE5, 0x010AE6), (0x010D24, 0x010D27), (0x010D69, 0x010D6D),
    (0x010EAB, 0x010EAC), (0x010EFA, 0x010EFF), (0x010F46, 0x010F50), (0x010F82, 0x010F85),
    (0x011001, 0x011001), (0x011038, 0x011046), (0x011070, 0x011070), (0x011073, 0x011074),
    (0x01107F, 0x011081), (0x0110B3, 0x0110B6), (0x0110B9, 0x0110BA), (0x0110C2, 0x0110C2),
    (0x011100, 0x011102), (0x011127, 0x01112B), (0x01112D, 0x011134), (0x011173, 0x011173),
    (0x011180, 0x011181), (0x0111B6, 0x0111BE), (0x0111C0, 0x0111C0), (0x0111C9, 0x0111CC),
    (0x0111CF, 0x0111CF), (0x01122F, 0x011231), (0x011234, 0x011237), (0x01123E, 0x01123E),
    (0x011241, 0x011241), (0x0112DF, 0x0112DF), (0x0112E3, 0x0112EA), (0x011300, 0x011301),
    (0x01133B, 0x01133C), (0x01133E, 0x01133E), (0x011340, 0x011340), (0x01134D, 0x01134D),
    (0x011357, 0x011357), (0x011366, 0x01136C), (0x011370, 0x011374), (0x0113B8, 0x0113B8),
    (0x0113BB, 0x0113C0), (0x0113C2, 0x0113C2), (0x0113C5, 0x0113C5), (0x0113C7, 0x0113C9),
    (0x0113CE, 0x0113D0), (0x0113D2, 0x0113D2), (0x0113E1, 0x0113E2), (0x011438, 0x01143F),
    (0x011442, 0x011444), (0x011446, 0x011446), (0x01145E, 0x01145E), (0x0114B0, 0x0114B0),
    (0x0114B3, 0x0114B8), (0x0114BA, 0x0114BA), (0x0114BD, 0x0114BD), (0x0114BF, 0x0114C0),
    (0x0114C2, 0x0114C3), (0x0115AF, 0x0115AF), (0x0115B2, 0x0115B5), (0x0115BC, 0x0115BD),
    (0x0115BF, 0x0115C0), (0x0115DC, 0x0115DD), (0x011633, 0x01163A), (0x01163D, 0x01163D),
    (0x01163F, 0x011640), (0x0116AB, 0x0116AB), (0x0116AD, 0x0116AD), (0x0116B0, 0x0116B7),
    (0x01171D, 0x01171D), (0x01171F, 0x01171F), (0x011722, 0x011725), (0x011727, 0x01172B),
    (0x01182F, 0x011837), (0x011839, 0x01183A), (0x011930, 0x011930), (0x01193B, 0x01193E),
    (0x011943, 0x011943), (0x0119D4, 0x0119D7), (0x0119DA, 0x0119DB), (0x0119E0, 0x0119E0),
    (0x011A01, 0x011A0A), (0x011A33, 0x011A38), (0x011A3B, 0x011A3E), (0x011A47, 0x011A47),
    (0x011A51, 0x011A56), (0x011A59, 0x011A5B), (0x011A8A, 0x011A96), (0x011A98, 0x011A99),
    (0x011B60, 0x011B60), (0x011B62, 0x011B64), (0x011B66, 0x011B66), (0x011C30, 0x011C36),
    (0x011C38, 0x011C3D), (0x011C3F, 0x011C3F), (0x011C92, 0x011CA7), (0x011CAA, 0x011CB0),
    (0x011CB2, 0x011CB3), (0x011CB5, 0x011CB6), (0x011D31, 0x011D36), (0x011D3A, 0x011D3A),
    (0x011D3C, 0x011D3D), (0x011D3F, 0x011D45), (0x011D47, 0x011D47), (0x011D90, 0x011D91),
    (0x011D95, 0x011D95), (0x011D97, 0x011D97), (0x011EF3, 0x011EF4), (0x011F00, 0x011F01),
    (0x011F36, 0x011F3A), (0x011F40, 0x011F42), (0x011F5A, 0x011F5A), (0x013440, 0x013440),
    (0x013447, 0x013455), (0x01611E, 0x016129), (0x01612D, 0x01612F), (0x016AF0, 0x016AF4),
    (0x016B30, 0x016B36), (0x016F4F, 0x016F4F), (0x016F8F, 0x016F92), (0x016FE4, 0x016FE4),
    (0x016FF0, 0x016FF1), (0x01BC9D, 0x01BC9E), (0x01CF00, 0x01CF2D), (0x01CF30, 0x01CF46),
    (0x01D165, 0x01D169), (0x01D16D, 0x01D172), (0x01D17B, 0x01D182), (0x01D185, 0x01D18B),
    (0x01D1AA, 0x01D1AD), (0x01D242, 0x01D244), (0x01DA00, 0x01DA36), (0x01DA3B, 0x01DA6C),
    (0x01DA75, 0x01DA75), (0x01DA84, 0x01DA84), (0x01DA9B, 0x01DA9F), (0x01DAA1, 0x01DAAF),
    (0x01E000, 0x01E006), (0x01E008, 0x01E018), (0x01E01B, 0x01E021), (0x01E023, 0x01E024),
    (0x01E026, 0x01E02A), (0x01E08F, 0x01E08F), (0x01E130, 0x01E136), (0x01E2AE, 0x01E2AE),
    (0x01E2EC, 0x01E2EF), (0x01E4EC, 0x01E4EF), (0x01E5EE, 0x01E5EF), (0x01E6E3, 0x01E6E3),
    (0x01E6E6, 0x01E6E6), (0x01E6EE, 0x01E6EF), (0x01E6F5, 0x01E6F5), (0x01E8D0, 0x01E8D6),
    (0x01E944, 0x01E94A), (0x0E0020, 0x0E007F), (0x0E0100, 0x0E01EF)]

/-- The code points of the general category `Mc`. -/
def spacingMarkRanges : List (Nat × Nat) :=
  [(0x0903, 0x0903), (0x093B, 0x093B), (0x093E, 0x0940), (0x0949, 0x094C), (0x094E, 0x094F),
    (0x0982, 0x0983), (0x09BE, 0x09C0), (0x09C7, 0x09C8), (0x09CB, 0x09CC), (0x09D7, 0x09D7),
    (0x0A03, 0x0A03), (0x0A3E, 0x0A40), (0x0A83, 0x0A83), (0x0ABE, 0x0AC0), (0x0AC9, 0x0AC9),
    (0x0ACB, 0x0ACC), (0x0B02, 0x0B03), (0x0B3E, 0x0B3E), (0x0B40, 0x0B40), (0x0B47, 0x0B48),
    (0x0B4B, 0x0B4C), (0x0B57, 0x0B57), (0x0BBE, 0x0BBF), (0x0BC1, 0x0BC2), (0x0BC6, 0x0BC8),
    (0x0BCA, 0x0BCC), (0x0BD7, 0x0BD7), (0x0C01, 0x0C03), (0x0C41, 0x0C44), (0x0C82, 0x0C83),
    (0x0CBE, 0x0CBE), (0x0CC0, 0x0CC4), (0x0CC7, 0x0CC8), (0x0CCA, 0x0CCB), (0x0CD5, 0x0CD6),
    (0x0CF3, 0x0CF3), (0x0D02, 0x0D03), (0x0D3E, 0x0D40), (0x0D46, 0x0D48), (0x0D4A, 0x0D4C),
    (0x0D57, 0x0D57), (0x0D82, 0x0D83), (0x0DCF, 0x0DD1), (0x0DD8, 0x0DDF), (0x0DF2, 0x0DF3),
    (0x0F3E, 0x0F3F), (0x0F7F, 0x0F7F), (0x102B, 0x102C), (0x1031, 0x1031), (0x1038, 0x1038),
    (0x103B, 0x103C), (0x1056, 0x1057), (0x1062, 0x1064), (0x1067, 0x106D), (0x1083, 0x1084),
    (0x1087, 0x108C), (0x108F, 0x108F), (0x109A, 0x109C), (0x1715, 0x1715), (0x1734, 0x1734),
    (0x17B6, 0x17B6), (0x17BE, 0x17C5), (0x17C7, 0x17C8), (0x1923, 0x1926), (0x1929, 0x192B),
    (0x1930, 0x1931), (0x1933, 0x1938), (0x1A19, 0x1A1A), (0x1A55, 0x1A55), (0x1A57, 0x1A57),
    (0x1A61, 0x1A61), (0x1A63, 0x1A64), (0x1A6D, 0x1A72), (0x1B04, 0x1B04), (0x1B35, 0x1B35),
    (0x1B3B, 0x1B3B), (0x1B3D, 0x1B41), (0x1B43, 0x1B44), (0x1B82, 0x1B82), (0x1BA1, 0x1BA1),
    (0x1BA6, 0x1BA7), (0x1BAA, 0x1BAA), (0x1BE7, 0x1BE7), (0x1BEA, 0x1BEC), (0x1BEE, 0x1BEE),
    (0x1BF2, 0x1BF3), (0x1C24, 0x1C2B), (0x1C34, 0x1C35), (0x1CE1, 0x1CE1), (0x1CF7, 0x1CF7),
    (0x302E, 0x302F), (0xA823, 0xA824), (0xA827, 0xA827), (0xA880, 0xA881), (0xA8B4, 0xA8C3),
    (0xA952, 0xA953), (0xA983, 0xA983), (0xA9B4, 0xA9B5), (0xA9BA, 0xA9BB), (0xA9BE, 0xA9C0),
    (0xAA2F, 0xAA30), (0xAA33, 0xAA34), (0xAA4D, 0xAA4D), (0xAA7B, 0xAA7B), (0xAA7D, 0xAA7D),
    (0xAAEB, 0xAAEB), (0xAAEE, 0xAAEF), (0xAAF5, 0xAAF5), (0xABE3, 0xABE4), (0xABE6, 0xABE7),
    (0xABE9, 0xABEA), (0xABEC, 0xABEC), (0x011000, 0x011000), (0x011002, 0x011002),
    (0x011082, 0x011082), (0x0110B0, 0x0110B2), (0x0110B7, 0x0110B8), (0x01112C, 0x01112C),
    (0x011145, 0x011146), (0x011182, 0x011182), (0x0111B3, 0x0111B5), (0x0111BF, 0x0111C0),
    (0x0111CE, 0x0111CE), (0x01122C, 0x01122E), (0x011232, 0x011233), (0x011235, 0x011235),
    (0x0112E0, 0x0112E2), (0x011302, 0x011303), (0x01133E, 0x01133F), (0x011341, 0x011344),
    (0x011347, 0x011348), (0x01134B, 0x01134D), (0x011357, 0x011357), (0x011362, 0x011363),
    (0x0113B8, 0x0113BA), (0x0113C2, 0x0113C2), (0x0113C5, 0x0113C5), (0x0113C7, 0x0113CA),
    (0x0113CC, 0x0113CD), (0x0113CF, 0x0113CF), (0x011435, 0x011437), (0x011440, 0x011441),
    (0x011445, 0x011445), (0x0114B0, 0x0114B2), (0x0114B9, 0x0114B9), (0x0114BB, 0x0114BE),
    (0x0114C1, 0x0114C1), (0x0115AF, 0x0115B1), (0x0115B8, 0x0115BB), (0x0115BE, 0x0115BE),
    (0x011630, 0x011632), (0x01163B, 0x01163C), (0x01163E, 0x01163E), (0x0116AC, 0x0116AC),
    (0x0116AE, 0x0116AF), (0x0116B6, 0x0116B6), (0x01171E, 0x01171E), (0x011720, 0x011721),
    (0x011726, 0x011726), (0x01182C, 0x01182E), (0x011838, 0x011838), (0x011930, 0x011935),
    (0x011937, 0x011938), (0x01193D, 0x01193D), (0x011940, 0x011940), (0x011942, 0x011942),
    (0x0119D1, 0x0119D3), (0x0119DC, 0x0119DF), (0x0119E4, 0x0119E4), (0x011A39, 0x011A39),
    (0x011A57, 0x011A58), (0x011A97, 0x011A97), (0x011B61, 0x011B61), (0x011B65, 0x011B65),
    (0x011B67, 0x011B67), (0x011C2F, 0x011C2F), (0x011C3E, 0x011C3E), (0x011CA9, 0x011CA9),
    (0x011CB1, 0x011CB1), (0x011CB4, 0x011CB4), (0x011D8A, 0x011D8E), (0x011D93, 0x011D94),
    (0x011D96, 0x011D96), (0x011EF5, 0x011EF6), (0x011F03, 0x011F03), (0x011F34, 0x011F35),
    (0x011F3E, 0x011F3F), (0x011F41, 0x011F41), (0x01612A, 0x01612C), (0x016F51, 0x016F87),
    (0x016FF0, 0x016FF1), (0x01D165, 0x01D166), (0x01D16D, 0x01D172)]

/-- The code points with the property `Grapheme_Extend` that are no marks. -/
def extendingOthers : List (Nat × Nat) :=
  [(0x200C, 0x200C), (0xFF9E, 0xFF9F), (0x0E0020, 0x0E007F)]

/-- The character belongs to the grapheme of the character in front of it. -/
def extendsGrapheme (c : Char) : Bool := within extendingRanges c.toNat

def isSpacingMark (c : Char) : Bool := within spacingMarkRanges c.toNat

def isNonspacingMark (c : Char) : Bool :=
  extendsGrapheme c && !isSpacingMark c && !within extendingOthers c.toNat

def isMark (c : Char) : Bool := isSpacingMark c || isNonspacingMark c

end ClusterGate.Text
