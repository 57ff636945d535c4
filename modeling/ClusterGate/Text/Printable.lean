import ClusterGate.Text.Ranges

/-!
# Characters that can be shown

A character can be shown if it has a shape of its own or changes the shape of another. Control and
format characters, private and unassigned ones, and blanks other than the space cannot.
-/

namespace ClusterGate.Text

/-- The code points that are in none of the general categories `Cc`, `Cf`, `Cs`, `Co`, `Cn`, `Zl`,
`Zp` and `Zs`, and the space. -/
def printableRanges : List (Nat × Nat) :=
  [(0x20, 0x7E), (0xA1, 0xAC), (0xAE, 0x0377), (0x037A, 0x037F), (0x0384, 0x038A), (0x038C, 0x038C),
    (0x038E, 0x03A1), (0x03A3, 0x052F), (0x0531, 0x0556), (0x0559, 0x058A), (0x058D, 0x058F),
    (0x0591, 0x05C7), (0x05D0, 0x05EA), (0x05EF, 0x05F4), (0x0606, 0x061B), (0x061D, 0x06DC),
    (0x06DE, 0x070D), (0x0710, 0x074A), (0x074D, 0x07B1), (0x07C0, 0x07FA), (0x07FD, 0x082D),
    (0x0830, 0x083E), (0x0840, 0x085B), (0x085E, 0x085E), (0x0860, 0x086A), (0x0870, 0x088F),
    (0x0897, 0x08E1), (0x08E3, 0x0983), (0x0985, 0x098C), (0x098F, 0x0990), (0x0993, 0x09A8),
    (0x09AA, 0x09B0), (0x09B2, 0x09B2), (0x09B6, 0x09B9), (0x09BC, 0x09C4), (0x09C7, 0x09C8),
    (0x09CB, 0x09CE), (0x09D7, 0x09D7), (0x09DC, 0x09DD), (0x09DF, 0x09E3), (0x09E6, 0x09FE),
    (0x0A01, 0x0A03), (0x0A05, 0x0A0A), (0x0A0F, 0x0A10), (0x0A13, 0x0A28), (0x0A2A, 0x0A30),
    (0x0A32, 0x0A33), (0x0A35, 0x0A36), (0x0A38, 0x0A39), (0x0A3C, 0x0A3C), (0x0A3E, 0x0A42),
    (0x0A47, 0x0A48), (0x0A4B, 0x0A4D), (0x0A51, 0x0A51), (0x0A59, 0x0A5C), (0x0A5E, 0x0A5E),
    (0x0A66, 0x0A76), (0x0A81, 0x0A83), (0x0A85, 0x0A8D), (0x0A8F, 0x0A91), (0x0A93, 0x0AA8),
    (0x0AAA, 0x0AB0), (0x0AB2, 0x0AB3), (0x0AB5, 0x0AB9), (0x0ABC, 0x0AC5), (0x0AC7, 0x0AC9),
    (0x0ACB, 0x0ACD), (0x0AD0, 0x0AD0), (0x0AE0, 0x0AE3), (0x0AE6, 0x0AF1), (0x0AF9, 0x0AFF),
    (0x0B01, 0x0B03), (0x0B05, 0x0B0C), (0x0B0F, 0x0B10), (0x0B13, 0x0B28), (0x0B2A, 0x0B30),
    (0x0B32, 0x0B33), (0x0B35, 0x0B39), (0x0B3C, 0x0B44), (0x0B47, 0x0B48), (0x0B4B, 0x0B4D),
    (0x0B55, 0x0B57), (0x0B5C, 0x0B5D), (0x0B5F, 0x0B63), (0x0B66, 0x0B77), (0x0B82, 0x0B83),
    (0x0B85, 0x0B8A), (0x0B8E, 0x0B90), (0x0B92, 0x0B95), (0x0B99, 0x0B9A), (0x0B9C, 0x0B9C),
    (0x0B9E, 0x0B9F), (0x0BA3, 0x0BA4), (0x0BA8, 0x0BAA), (0x0BAE, 0x0BB9), (0x0BBE, 0x0BC2),
    (0x0BC6, 0x0BC8), (0x0BCA, 0x0BCD), (0x0BD0, 0x0BD0), (0x0BD7, 0x0BD7), (0x0BE6, 0x0BFA),
    (0x0C00, 0x0C0C), (0x0C0E, 0x0C10), (0x0C12, 0x0C28), (0x0C2A, 0x0C39), (0x0C3C, 0x0C44),
    (0x0C46, 0x0C48), (0x0C4A, 0x0C4D), (0x0C55, 0x0C56), (0x0C58, 0x0C5A), (0x0C5C, 0x0C5D),
    (0x0C60, 0x0C63), (0x0C66, 0x0C6F), (0x0C77, 0x0C8C), (0x0C8E, 0x0C90), (0x0C92, 0x0CA8),
    (0x0CAA, 0x0CB3), (0x0CB5, 0x0CB9), (0x0CBC, 0x0CC4), (0x0CC6, 0x0CC8), (0x0CCA, 0x0CCD),
    (0x0CD5, 0x0CD6), (0x0CDC, 0x0CDE), (0x0CE0, 0x0CE3), (0x0CE6, 0x0CEF), (0x0CF1, 0x0CF3),
    (0x0D00, 0x0D0C), (0x0D0E, 0x0D10), (0x0D12, 0x0D44), (0x0D46, 0x0D48), (0x0D4A, 0x0D4F),
    (0x0D54, 0x0D63), (0x0D66, 0x0D7F), (0x0D81, 0x0D83), (0x0D85, 0x0D96), (0x0D9A, 0x0DB1),
    (0x0DB3, 0x0DBB), (0x0DBD, 0x0DBD), (0x0DC0, 0x0DC6), (0x0DCA, 0x0DCA), (0x0DCF, 0x0DD4),
    (0x0DD6, 0x0DD6), (0x0DD8, 0x0DDF), (0x0DE6, 0x0DEF), (0x0DF2, 0x0DF4), (0x0E01, 0x0E3A),
    (0x0E3F, 0x0E5B), (0x0E81, 0x0E82), (0x0E84, 0x0E84), (0x0E86, 0x0E8A), (0x0E8C, 0x0EA3),
    (0x0EA5, 0x0EA5), (0x0EA7, 0x0EBD), (0x0EC0, 0x0EC4), (0x0EC6, 0x0EC6), (0x0EC8, 0x0ECE),
    (0x0ED0, 0x0ED9), (0x0EDC, 0x0EDF), (0x0F00, 0x0F47), (0x0F49, 0x0F6C), (0x0F71, 0x0F97),
    (0x0F99, 0x0FBC), (0x0FBE, 0x0FCC), (0x0FCE, 0x0FDA), (0x1000, 0x10C5), (0x10C7, 0x10C7),
    (0x10CD, 0x10CD), (0x10D0, 0x1248), (0x124A, 0x124D), (0x1250, 0x1256), (0x1258, 0x1258),
    (0x125A, 0x125D), (0x1260, 0x1288), (0x128A, 0x128D), (0x1290, 0x12B0), (0x12B2, 0x12B5),
    (0x12B8, 0x12BE), (0x12C0, 0x12C0), (0x12C2, 0x12C5), (0x12C8, 0x12D6), (0x12D8, 0x1310),
    (0x1312, 0x1315), (0x1318, 0x135A), (0x135D, 0x137C), (0x1380, 0x1399), (0x13A0, 0x13F5),
    (0x13F8, 0x13FD), (0x1400, 0x167F), (0x1681, 0x169C), (0x16A0, 0x16F8), (0x1700, 0x1715),
    (0x171F, 0x1736), (0x1740, 0x1753), (0x1760, 0x176C), (0x176E, 0x1770), (0x1772, 0x1773),
    (0x1780, 0x17DD), (0x17E0, 0x17E9), (0x17F0, 0x17F9), (0x1800, 0x180D), (0x180F, 0x1819),
    (0x1820, 0x1878), (0x1880, 0x18AA), (0x18B0, 0x18F5), (0x1900, 0x191E), (0x1920, 0x192B),
    (0x1930, 0x193B), (0x1940, 0x1940), (0x1944, 0x196D), (0x1970, 0x1974), (0x1980, 0x19AB),
    (0x19B0, 0x19C9), (0x19D0, 0x19DA), (0x19DE, 0x1A1B), (0x1A1E, 0x1A5E), (0x1A60, 0x1A7C),
    (0x1A7F, 0x1A89), (0x1A90, 0x1A99), (0x1AA0, 0x1AAD), (0x1AB0, 0x1ADD), (0x1AE0, 0x1AEB),
    (0x1B00, 0x1B4C), (0x1B4E, 0x1BF3), (0x1BFC, 0x1C37), (0x1C3B, 0x1C49), (0x1C4D, 0x1C8A),
    (0x1C90, 0x1CBA), (0x1CBD, 0x1CC7), (0x1CD0, 0x1CFA), (0x1D00, 0x1F15), (0x1F18, 0x1F1D),
    (0x1F20, 0x1F45), (0x1F48, 0x1F4D), (0x1F50, 0x1F57), (0x1F59, 0x1F59), (0x1F5B, 0x1F5B),
    (0x1F5D, 0x1F5D), (0x1F5F, 0x1F7D), (0x1F80, 0x1FB4), (0x1FB6, 0x1FC4), (0x1FC6, 0x1FD3),
    (0x1FD6, 0x1FDB), (0x1FDD, 0x1FEF), (0x1FF2, 0x1FF4), (0x1FF6, 0x1FFE), (0x2010, 0x2027),
    (0x2030, 0x205E), (0x2070, 0x2071), (0x2074, 0x208E), (0x2090, 0x209C), (0x20A0, 0x20C1),
    (0x20D0, 0x20F0), (0x2100, 0x218B), (0x2190, 0x2429), (0x2440, 0x244A), (0x2460, 0x2B73),
    (0x2B76, 0x2CF3), (0x2CF9, 0x2D25), (0x2D27, 0x2D27), (0x2D2D, 0x2D2D), (0x2D30, 0x2D67),
    (0x2D6F, 0x2D70), (0x2D7F, 0x2D96), (0x2DA0, 0x2DA6), (0x2DA8, 0x2DAE), (0x2DB0, 0x2DB6),
    (0x2DB8, 0x2DBE), (0x2DC0, 0x2DC6), (0x2DC8, 0x2DCE), (0x2DD0, 0x2DD6), (0x2DD8, 0x2DDE),
    (0x2DE0, 0x2E5D), (0x2E80, 0x2E99), (0x2E9B, 0x2EF3), (0x2F00, 0x2FD5), (0x2FF0, 0x2FFF),
    (0x3001, 0x303F), (0x3041, 0x3096), (0x3099, 0x30FF), (0x3105, 0x312F), (0x3131, 0x318E),
    (0x3190, 0x31E5), (0x31EF, 0x321E), (0x3220, 0xA48C), (0xA490, 0xA4C6), (0xA4D0, 0xA62B),
    (0xA640, 0xA6F7), (0xA700, 0xA7DC), (0xA7F1, 0xA82C), (0xA830, 0xA839), (0xA840, 0xA877),
    (0xA880, 0xA8C5), (0xA8CE, 0xA8D9), (0xA8E0, 0xA953), (0xA95F, 0xA97C), (0xA980, 0xA9CD),
    (0xA9CF, 0xA9D9), (0xA9DE, 0xA9FE), (0xAA00, 0xAA36), (0xAA40, 0xAA4D), (0xAA50, 0xAA59),
    (0xAA5C, 0xAAC2), (0xAADB, 0xAAF6), (0xAB01, 0xAB06), (0xAB09, 0xAB0E), (0xAB11, 0xAB16),
    (0xAB20, 0xAB26), (0xAB28, 0xAB2E), (0xAB30, 0xAB6B), (0xAB70, 0xABED), (0xABF0, 0xABF9),
    (0xAC00, 0xD7A3), (0xD7B0, 0xD7C6), (0xD7CB, 0xD7FB), (0xF900, 0xFA6D), (0xFA70, 0xFAD9),
    (0xFB00, 0xFB06), (0xFB13, 0xFB17), (0xFB1D, 0xFB36), (0xFB38, 0xFB3C), (0xFB3E, 0xFB3E),
    (0xFB40, 0xFB41), (0xFB43, 0xFB44), (0xFB46, 0xFDCF), (0xFDF0, 0xFE19), (0xFE20, 0xFE52),
    (0xFE54, 0xFE66), (0xFE68, 0xFE6B), (0xFE70, 0xFE74), (0xFE76, 0xFEFC), (0xFF01, 0xFFBE),
    (0xFFC2, 0xFFC7), (0xFFCA, 0xFFCF), (0xFFD2, 0xFFD7), (0xFFDA, 0xFFDC), (0xFFE0, 0xFFE6),
    (0xFFE8, 0xFFEE), (0xFFFC, 0xFFFD), (0x010000, 0x01000B), (0x01000D, 0x010026),
    (0x010028, 0x01003A), (0x01003C, 0x01003D), (0x01003F, 0x01004D), (0x010050, 0x01005D),
    (0x010080, 0x0100FA), (0x010100, 0x010102), (0x010107, 0x010133), (0x010137, 0x01018E),
    (0x010190, 0x01019C), (0x0101A0, 0x0101A0), (0x0101D0, 0x0101FD), (0x010280, 0x01029C),
    (0x0102A0, 0x0102D0), (0x0102E0, 0x0102FB), (0x010300, 0x010323), (0x01032D, 0x01034A),
    (0x010350, 0x01037A), (0x010380, 0x01039D), (0x01039F, 0x0103C3), (0x0103C8, 0x0103D5),
    (0x010400, 0x01049D), (0x0104A0, 0x0104A9), (0x0104B0, 0x0104D3), (0x0104D8, 0x0104FB),
    (0x010500, 0x010527), (0x010530, 0x010563), (0x01056F, 0x01057A), (0x01057C, 0x01058A),
    (0x01058C, 0x010592), (0x010594, 0x010595), (0x010597, 0x0105A1), (0x0105A3, 0x0105B1),
    (0x0105B3, 0x0105B9), (0x0105BB, 0x0105BC), (0x0105C0, 0x0105F3), (0x010600, 0x010736),
    (0x010740, 0x010755), (0x010760, 0x010767), (0x010780, 0x010785), (0x010787, 0x0107B0),
    (0x0107B2, 0x0107BA), (0x010800, 0x010805), (0x010808, 0x010808), (0x01080A, 0x010835),
    (0x010837, 0x010838), (0x01083C, 0x01083C), (0x01083F, 0x010855), (0x010857, 0x01089E),
    (0x0108A7, 0x0108AF), (0x0108E0, 0x0108F2), (0x0108F4, 0x0108F5), (0x0108FB, 0x01091B),
    (0x01091F, 0x010939), (0x01093F, 0x010959), (0x010980, 0x0109B7), (0x0109BC, 0x0109CF),
    (0x0109D2, 0x010A03), (0x010A05, 0x010A06), (0x010A0C, 0x010A13), (0x010A15, 0x010A17),
    (0x010A19, 0x010A35), (0x010A38, 0x010A3A), (0x010A3F, 0x010A48), (0x010A50, 0x010A58),
    (0x010A60, 0x010A9F), (0x010AC0, 0x010AE6), (0x010AEB, 0x010AF6), (0x010B00, 0x010B35),
    (0x010B39, 0x010B55), (0x010B58, 0x010B72), (0x010B78, 0x010B91), (0x010B99, 0x010B9C),
    (0x010BA9, 0x010BAF), (0x010C00, 0x010C48), (0x010C80, 0x010CB2), (0x010CC0, 0x010CF2),
    (0x010CFA, 0x010D27), (0x010D30, 0x010D39), (0x010D40, 0x010D65), (0x010D69, 0x010D85),
    (0x010D8E, 0x010D8F), (0x010E60, 0x010E7E), (0x010E80, 0x010EA9), (0x010EAB, 0x010EAD),
    (0x010EB0, 0x010EB1), (0x010EC2, 0x010EC7), (0x010ED0, 0x010ED8), (0x010EFA, 0x010F27),
    (0x010F30, 0x010F59), (0x010F70, 0x010F89), (0x010FB0, 0x010FCB), (0x010FE0, 0x010FF6),
    (0x011000, 0x01104D), (0x011052, 0x011075), (0x01107F, 0x0110BC), (0x0110BE, 0x0110C2),
    (0x0110D0, 0x0110E8), (0x0110F0, 0x0110F9), (0x011100, 0x011134), (0x011136, 0x011147),
    (0x011150, 0x011176), (0x011180, 0x0111DF), (0x0111E1, 0x0111F4), (0x011200, 0x011211),
    (0x011213, 0x011241), (0x011280, 0x011286), (0x011288, 0x011288), (0x01128A, 0x01128D),
    (0x01128F, 0x01129D), (0x01129F, 0x0112A9), (0x0112B0, 0x0112EA), (0x0112F0, 0x0112F9),
    (0x011300, 0x011303), (0x011305, 0x01130C), (0x01130F, 0x011310), (0x011313, 0x011328),
    (0x01132A, 0x011330), (0x011332, 0x011333), (0x011335, 0x011339), (0x01133B, 0x011344),
    (0x011347, 0x011348), (0x01134B, 0x01134D), (0x011350, 0x011350), (0x011357, 0x011357),
    (0x01135D, 0x011363), (0x011366, 0x01136C), (0x011370, 0x011374), (0x011380, 0x011389),
    (0x01138B, 0x01138B), (0x01138E, 0x01138E), (0x011390, 0x0113B5), (0x0113B7, 0x0113C0),
    (0x0113C2, 0x0113C2), (0x0113C5, 0x0113C5), (0x0113C7, 0x0113CA), (0x0113CC, 0x0113D5),
    (0x0113D7, 0x0113D8), (0x0113E1, 0x0113E2), (0x011400, 0x01145B), (0x01145D, 0x011461),
    (0x011480, 0x0114C7), (0x0114D0, 0x0114D9), (0x011580, 0x0115B5), (0x0115B8, 0x0115DD),
    (0x011600, 0x011644), (0x011650, 0x011659), (0x011660, 0x01166C), (0x011680, 0x0116B9),
    (0x0116C0, 0x0116C9), (0x0116D0, 0x0116E3), (0x011700, 0x01171A), (0x01171D, 0x01172B),
    (0x011730, 0x011746), (0x011800, 0x01183B), (0x0118A0, 0x0118F2), (0x0118FF, 0x011906),
    (0x011909, 0x011909), (0x01190C, 0x011913), (0x011915, 0x011916), (0x011918, 0x011935),
    (0x011937, 0x011938), (0x01193B, 0x011946), (0x011950, 0x011959), (0x0119A0, 0x0119A7),
    (0x0119AA, 0x0119D7), (0x0119DA, 0x0119E4), (0x011A00, 0x011A47), (0x011A50, 0x011AA2),
    (0x011AB0, 0x011AF8), (0x011B00, 0x011B09), (0x011B60, 0x011B67), (0x011BC0, 0x011BE1),
    (0x011BF0, 0x011BF9), (0x011C00, 0x011C08), (0x011C0A, 0x011C36), (0x011C38, 0x011C45),
    (0x011C50, 0x011C6C), (0x011C70, 0x011C8F), (0x011C92, 0x011CA7), (0x011CA9, 0x011CB6),
    (0x011D00, 0x011D06), (0x011D08, 0x011D09), (0x011D0B, 0x011D36), (0x011D3A, 0x011D3A),
    (0x011D3C, 0x011D3D), (0x011D3F, 0x011D47), (0x011D50, 0x011D59), (0x011D60, 0x011D65),
    (0x011D67, 0x011D68), (0x011D6A, 0x011D8E), (0x011D90, 0x011D91), (0x011D93, 0x011D98),
    (0x011DA0, 0x011DA9), (0x011DB0, 0x011DDB), (0x011DE0, 0x011DE9), (0x011EE0, 0x011EF8),
    (0x011F00, 0x011F10), (0x011F12, 0x011F3A), (0x011F3E, 0x011F5A), (0x011FB0, 0x011FB0),
    (0x011FC0, 0x011FF1), (0x011FFF, 0x012399), (0x012400, 0x01246E), (0x012470, 0x012474),
    (0x012480, 0x012543), (0x012F90, 0x012FF2), (0x013000, 0x01342F), (0x013440, 0x013455),
    (0x013460, 0x0143FA), (0x014400, 0x014646), (0x016100, 0x016139), (0x016800, 0x016A38),
    (0x016A40, 0x016A5E), (0x016A60, 0x016A69), (0x016A6E, 0x016ABE), (0x016AC0, 0x016AC9),
    (0x016AD0, 0x016AED), (0x016AF0, 0x016AF5), (0x016B00, 0x016B45), (0x016B50, 0x016B59),
    (0x016B5B, 0x016B61), (0x016B63, 0x016B77), (0x016B7D, 0x016B8F), (0x016D40, 0x016D79),
    (0x016E40, 0x016E9A), (0x016EA0, 0x016EB8), (0x016EBB, 0x016ED3), (0x016F00, 0x016F4A),
    (0x016F4F, 0x016F87), (0x016F8F, 0x016F9F), (0x016FE0, 0x016FE4), (0x016FF0, 0x016FF6),
    (0x017000, 0x018CD5), (0x018CFF, 0x018D1E), (0x018D80, 0x018DF2), (0x01AFF0, 0x01AFF3),
    (0x01AFF5, 0x01AFFB), (0x01AFFD, 0x01AFFE), (0x01B000, 0x01B122), (0x01B132, 0x01B132),
    (0x01B150, 0x01B152), (0x01B155, 0x01B155), (0x01B164, 0x01B167), (0x01B170, 0x01B2FB),
    (0x01BC00, 0x01BC6A), (0x01BC70, 0x01BC7C), (0x01BC80, 0x01BC88), (0x01BC90, 0x01BC99),
    (0x01BC9C, 0x01BC9F), (0x01CC00, 0x01CCFC), (0x01CD00, 0x01CEB3), (0x01CEBA, 0x01CED0),
    (0x01CEE0, 0x01CEF0), (0x01CF00, 0x01CF2D), (0x01CF30, 0x01CF46), (0x01CF50, 0x01CFC3),
    (0x01D000, 0x01D0F5), (0x01D100, 0x01D126), (0x01D129, 0x01D172), (0x01D17B, 0x01D1EA),
    (0x01D200, 0x01D245), (0x01D2C0, 0x01D2D3), (0x01D2E0, 0x01D2F3), (0x01D300, 0x01D356),
    (0x01D360, 0x01D378), (0x01D400, 0x01D454), (0x01D456, 0x01D49C), (0x01D49E, 0x01D49F),
    (0x01D4A2, 0x01D4A2), (0x01D4A5, 0x01D4A6), (0x01D4A9, 0x01D4AC), (0x01D4AE, 0x01D4B9),
    (0x01D4BB, 0x01D4BB), (0x01D4BD, 0x01D4C3), (0x01D4C5, 0x01D505), (0x01D507, 0x01D50A),
    (0x01D50D, 0x01D514), (0x01D516, 0x01D51C), (0x01D51E, 0x01D539), (0x01D53B, 0x01D53E),
    (0x01D540, 0x01D544), (0x01D546, 0x01D546), (0x01D54A, 0x01D550), (0x01D552, 0x01D6A5),
    (0x01D6A8, 0x01D7CB), (0x01D7CE, 0x01DA8B), (0x01DA9B, 0x01DA9F), (0x01DAA1, 0x01DAAF),
    (0x01DF00, 0x01DF1E), (0x01DF25, 0x01DF2A), (0x01E000, 0x01E006), (0x01E008, 0x01E018),
    (0x01E01B, 0x01E021), (0x01E023, 0x01E024), (0x01E026, 0x01E02A), (0x01E030, 0x01E06D),
    (0x01E08F, 0x01E08F), (0x01E100, 0x01E12C), (0x01E130, 0x01E13D), (0x01E140, 0x01E149),
    (0x01E14E, 0x01E14F), (0x01E290, 0x01E2AE), (0x01E2C0, 0x01E2F9), (0x01E2FF, 0x01E2FF),
    (0x01E4D0, 0x01E4F9), (0x01E5D0, 0x01E5FA), (0x01E5FF, 0x01E5FF), (0x01E6C0, 0x01E6DE),
    (0x01E6E0, 0x01E6F5), (0x01E6FE, 0x01E6FF), (0x01E7E0, 0x01E7E6), (0x01E7E8, 0x01E7EB),
    (0x01E7ED, 0x01E7EE), (0x01E7F0, 0x01E7FE), (0x01E800, 0x01E8C4), (0x01E8C7, 0x01E8D6),
    (0x01E900, 0x01E94B), (0x01E950, 0x01E959), (0x01E95E, 0x01E95F), (0x01EC71, 0x01ECB4),
    (0x01ED01, 0x01ED3D), (0x01EE00, 0x01EE03), (0x01EE05, 0x01EE1F), (0x01EE21, 0x01EE22),
    (0x01EE24, 0x01EE24), (0x01EE27, 0x01EE27), (0x01EE29, 0x01EE32), (0x01EE34, 0x01EE37),
    (0x01EE39, 0x01EE39), (0x01EE3B, 0x01EE3B), (0x01EE42, 0x01EE42), (0x01EE47, 0x01EE47),
    (0x01EE49, 0x01EE49), (0x01EE4B, 0x01EE4B), (0x01EE4D, 0x01EE4F), (0x01EE51, 0x01EE52),
    (0x01EE54, 0x01EE54), (0x01EE57, 0x01EE57), (0x01EE59, 0x01EE59), (0x01EE5B, 0x01EE5B),
    (0x01EE5D, 0x01EE5D), (0x01EE5F, 0x01EE5F), (0x01EE61, 0x01EE62), (0x01EE64, 0x01EE64),
    (0x01EE67, 0x01EE6A), (0x01EE6C, 0x01EE72), (0x01EE74, 0x01EE77), (0x01EE79, 0x01EE7C),
    (0x01EE7E, 0x01EE7E), (0x01EE80, 0x01EE89), (0x01EE8B, 0x01EE9B), (0x01EEA1, 0x01EEA3),
    (0x01EEA5, 0x01EEA9), (0x01EEAB, 0x01EEBB), (0x01EEF0, 0x01EEF1), (0x01F000, 0x01F02B),
    (0x01F030, 0x01F093), (0x01F0A0, 0x01F0AE), (0x01F0B1, 0x01F0BF), (0x01F0C1, 0x01F0CF),
    (0x01F0D1, 0x01F0F5), (0x01F100, 0x01F1AD), (0x01F1E6, 0x01F202), (0x01F210, 0x01F23B),
    (0x01F240, 0x01F248), (0x01F250, 0x01F251), (0x01F260, 0x01F265), (0x01F300, 0x01F6D8),
    (0x01F6DC, 0x01F6EC), (0x01F6F0, 0x01F6FC), (0x01F700, 0x01F7D9), (0x01F7E0, 0x01F7EB),
    (0x01F7F0, 0x01F7F0), (0x01F800, 0x01F80B), (0x01F810, 0x01F847), (0x01F850, 0x01F859),
    (0x01F860, 0x01F887), (0x01F890, 0x01F8AD), (0x01F8B0, 0x01F8BB), (0x01F8C0, 0x01F8C1),
    (0x01F8D0, 0x01F8D8), (0x01F900, 0x01FA57), (0x01FA60, 0x01FA6D), (0x01FA70, 0x01FA7C),
    (0x01FA80, 0x01FA8A), (0x01FA8E, 0x01FAC6), (0x01FAC8, 0x01FAC8), (0x01FACD, 0x01FADC),
    (0x01FADF, 0x01FAEA), (0x01FAEF, 0x01FAF8), (0x01FB00, 0x01FB92), (0x01FB94, 0x01FBFA),
    (0x020000, 0x02A6DF), (0x02A700, 0x02B81D), (0x02B820, 0x02CEAD), (0x02CEB0, 0x02EBE0),
    (0x02EBF0, 0x02EE5D), (0x02F800, 0x02FA1D), (0x030000, 0x03134A), (0x031350, 0x033479),
    (0x0E0100, 0x0E01EF)]

def isPrintable (c : Char) : Bool := within printableRanges c.toNat

end ClusterGate.Text
