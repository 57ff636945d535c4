import ClusterGate.Text.Ranges

/-!
# Letters and numbers
-/

namespace ClusterGate.Text

/-- The code points with the property `Alphabetic`. -/
def alphabeticRanges : List (Nat × Nat) :=
  [(0x41, 0x5A), (0x61, 0x7A), (0xAA, 0xAA), (0xB5, 0xB5), (0xBA, 0xBA), (0xC0, 0xD6), (0xD8, 0xF6),
    (0xF8, 0x02C1), (0x02C6, 0x02D1), (0x02E0, 0x02E4), (0x02EC, 0x02EC), (0x02EE, 0x02EE),
    (0x0345, 0x0345), (0x0363, 0x0374), (0x0376, 0x0377), (0x037A, 0x037D), (0x037F, 0x037F),
    (0x0386, 0x0386), (0x0388, 0x038A), (0x038C, 0x038C), (0x038E, 0x03A1), (0x03A3, 0x03F5),
    (0x03F7, 0x0481), (0x048A, 0x052F), (0x0531, 0x0556), (0x0559, 0x0559), (0x0560, 0x0588),
    (0x05B0, 0x05BD), (0x05BF, 0x05BF), (0x05C1, 0x05C2), (0x05C4, 0x05C5), (0x05C7, 0x05C7),
    (0x05D0, 0x05EA), (0x05EF, 0x05F2), (0x0610, 0x061A), (0x0620, 0x0657), (0x0659, 0x065F),
    (0x066E, 0x06D3), (0x06D5, 0x06DC), (0x06E1, 0x06E8), (0x06ED, 0x06EF), (0x06FA, 0x06FC),
    (0x06FF, 0x06FF), (0x0710, 0x073F), (0x074D, 0x07B1), (0x07CA, 0x07EA), (0x07F4, 0x07F5),
    (0x07FA, 0x07FA), (0x0800, 0x0817), (0x081A, 0x082C), (0x0840, 0x0858), (0x0860, 0x086A),
    (0x0870, 0x0887), (0x0889, 0x088F), (0x0897, 0x0897), (0x08A0, 0x08C9), (0x08D4, 0x08DF),
    (0x08E3, 0x08E9), (0x08F0, 0x093B), (0x093D, 0x094C), (0x094E, 0x0950), (0x0955, 0x0963),
    (0x0971, 0x0983), (0x0985, 0x098C), (0x098F, 0x0990), (0x0993, 0x09A8), (0x09AA, 0x09B0),
    (0x09B2, 0x09B2), (0x09B6, 0x09B9), (0x09BD, 0x09C4), (0x09C7, 0x09C8), (0x09CB, 0x09CC),
    (0x09CE, 0x09CE), (0x09D7, 0x09D7), (0x09DC, 0x09DD), (0x09DF, 0x09E3), (0x09F0, 0x09F1),
    (0x09FC, 0x09FC), (0x0A01, 0x0A03), (0x0A05, 0x0A0A), (0x0A0F, 0x0A10), (0x0A13, 0x0A28),
    (0x0A2A, 0x0A30), (0x0A32, 0x0A33), (0x0A35, 0x0A36), (0x0A38, 0x0A39), (0x0A3E, 0x0A42),
    (0x0A47, 0x0A48), (0x0A4B, 0x0A4C), (0x0A51, 0x0A51), (0x0A59, 0x0A5C), (0x0A5E, 0x0A5E),
    (0x0A70, 0x0A75), (0x0A81, 0x0A83), (0x0A85, 0x0A8D), (0x0A8F, 0x0A91), (0x0A93, 0x0AA8),
    (0x0AAA, 0x0AB0), (0x0AB2, 0x0AB3), (0x0AB5, 0x0AB9), (0x0ABD, 0x0AC5), (0x0AC7, 0x0AC9),
    (0x0ACB, 0x0ACC), (0x0AD0, 0x0AD0), (0x0AE0, 0x0AE3), (0x0AF9, 0x0AFC), (0x0B01, 0x0B03),
    (0x0B05, 0x0B0C), (0x0B0F, 0x0B10), (0x0B13, 0x0B28), (0x0B2A, 0x0B30), (0x0B32, 0x0B33),
    (0x0B35, 0x0B39), (0x0B3D, 0x0B44), (0x0B47, 0x0B48), (0x0B4B, 0x0B4C), (0x0B56, 0x0B57),
    (0x0B5C, 0x0B5D), (0x0B5F, 0x0B63), (0x0B71, 0x0B71), (0x0B82, 0x0B83), (0x0B85, 0x0B8A),
    (0x0B8E, 0x0B90), (0x0B92, 0x0B95), (0x0B99, 0x0B9A), (0x0B9C, 0x0B9C), (0x0B9E, 0x0B9F),
    (0x0BA3, 0x0BA4), (0x0BA8, 0x0BAA), (0x0BAE, 0x0BB9), (0x0BBE, 0x0BC2), (0x0BC6, 0x0BC8),
    (0x0BCA, 0x0BCC), (0x0BD0, 0x0BD0), (0x0BD7, 0x0BD7), (0x0C00, 0x0C0C), (0x0C0E, 0x0C10),
    (0x0C12, 0x0C28), (0x0C2A, 0x0C39), (0x0C3D, 0x0C44), (0x0C46, 0x0C48), (0x0C4A, 0x0C4C),
    (0x0C55, 0x0C56), (0x0C58, 0x0C5A), (0x0C5C, 0x0C5D), (0x0C60, 0x0C63), (0x0C80, 0x0C83),
    (0x0C85, 0x0C8C), (0x0C8E, 0x0C90), (0x0C92, 0x0CA8), (0x0CAA, 0x0CB3), (0x0CB5, 0x0CB9),
    (0x0CBD, 0x0CC4), (0x0CC6, 0x0CC8), (0x0CCA, 0x0CCC), (0x0CD5, 0x0CD6), (0x0CDC, 0x0CDE),
    (0x0CE0, 0x0CE3), (0x0CF1, 0x0CF3), (0x0D00, 0x0D0C), (0x0D0E, 0x0D10), (0x0D12, 0x0D3A),
    (0x0D3D, 0x0D44), (0x0D46, 0x0D48), (0x0D4A, 0x0D4C), (0x0D4E, 0x0D4E), (0x0D54, 0x0D57),
    (0x0D5F, 0x0D63), (0x0D7A, 0x0D7F), (0x0D81, 0x0D83), (0x0D85, 0x0D96), (0x0D9A, 0x0DB1),
    (0x0DB3, 0x0DBB), (0x0DBD, 0x0DBD), (0x0DC0, 0x0DC6), (0x0DCF, 0x0DD4), (0x0DD6, 0x0DD6),
    (0x0DD8, 0x0DDF), (0x0DF2, 0x0DF3), (0x0E01, 0x0E3A), (0x0E40, 0x0E46), (0x0E4D, 0x0E4D),
    (0x0E81, 0x0E82), (0x0E84, 0x0E84), (0x0E86, 0x0E8A), (0x0E8C, 0x0EA3), (0x0EA5, 0x0EA5),
    (0x0EA7, 0x0EB9), (0x0EBB, 0x0EBD), (0x0EC0, 0x0EC4), (0x0EC6, 0x0EC6), (0x0ECD, 0x0ECD),
    (0x0EDC, 0x0EDF), (0x0F00, 0x0F00), (0x0F40, 0x0F47), (0x0F49, 0x0F6C), (0x0F71, 0x0F83),
    (0x0F88, 0x0F97), (0x0F99, 0x0FBC), (0x1000, 0x1036), (0x1038, 0x1038), (0x103B, 0x103F),
    (0x1050, 0x108F), (0x109A, 0x109D), (0x10A0, 0x10C5), (0x10C7, 0x10C7), (0x10CD, 0x10CD),
    (0x10D0, 0x10FA), (0x10FC, 0x1248), (0x124A, 0x124D), (0x1250, 0x1256), (0x1258, 0x1258),
    (0x125A, 0x125D), (0x1260, 0x1288), (0x128A, 0x128D), (0x1290, 0x12B0), (0x12B2, 0x12B5),
    (0x12B8, 0x12BE), (0x12C0, 0x12C0), (0x12C2, 0x12C5), (0x12C8, 0x12D6), (0x12D8, 0x1310),
    (0x1312, 0x1315), (0x1318, 0x135A), (0x1380, 0x138F), (0x13A0, 0x13F5), (0x13F8, 0x13FD),
    (0x1401, 0x166C), (0x166F, 0x167F), (0x1681, 0x169A), (0x16A0, 0x16EA), (0x16EE, 0x16F8),
    (0x1700, 0x1713), (0x171F, 0x1733), (0x1740, 0x1753), (0x1760, 0x176C), (0x176E, 0x1770),
    (0x1772, 0x1773), (0x1780, 0x17B3), (0x17B6, 0x17C8), (0x17D7, 0x17D7), (0x17DC, 0x17DC),
    (0x1820, 0x1878), (0x1880, 0x18AA), (0x18B0, 0x18F5), (0x1900, 0x191E), (0x1920, 0x192B),
    (0x1930, 0x1938), (0x1950, 0x196D), (0x1970, 0x1974), (0x1980, 0x19AB), (0x19B0, 0x19C9),
    (0x1A00, 0x1A1B), (0x1A20, 0x1A5E), (0x1A61, 0x1A74), (0x1AA7, 0x1AA7), (0x1ABF, 0x1AC0),
    (0x1ACC, 0x1ACE), (0x1B00, 0x1B33), (0x1B35, 0x1B43), (0x1B45, 0x1B4C), (0x1B80, 0x1BA9),
    (0x1BAC, 0x1BAF), (0x1BBA, 0x1BE5), (0x1BE7, 0x1BF1), (0x1C00, 0x1C36), (0x1C4D, 0x1C4F),
    (0x1C5A, 0x1C7D), (0x1C80, 0x1C8A), (0x1C90, 0x1CBA), (0x1CBD, 0x1CBF), (0x1CE9, 0x1CEC),
    (0x1CEE, 0x1CF3), (0x1CF5, 0x1CF6), (0x1CFA, 0x1CFA), (0x1D00, 0x1DBF), (0x1DD3, 0x1DF4),
    (0x1E00, 0x1F15), (0x1F18, 0x1F1D), (0x1F20, 0x1F45), (0x1F48, 0x1F4D), (0x1F50, 0x1F57),
    (0x1F59, 0x1F59), (0x1F5B, 0x1F5B), (0x1F5D, 0x1F5D), (0x1F5F, 0x1F7D), (0x1F80, 0x1FB4),
    (0x1FB6, 0x1FBC), (0x1FBE, 0x1FBE), (0x1FC2, 0x1FC4), (0x1FC6, 0x1FCC), (0x1FD0, 0x1FD3),
    (0x1FD6, 0x1FDB), (0x1FE0, 0x1FEC), (0x1FF2, 0x1FF4), (0x1FF6, 0x1FFC), (0x2071, 0x2071),
    (0x207F, 0x207F), (0x2090, 0x209C), (0x2102, 0x2102), (0x2107, 0x2107), (0x210A, 0x2113),
    (0x2115, 0x2115), (0x2119, 0x211D), (0x2124, 0x2124), (0x2126, 0x2126), (0x2128, 0x2128),
    (0x212A, 0x212D), (0x212F, 0x2139), (0x213C, 0x213F), (0x2145, 0x2149), (0x214E, 0x214E),
    (0x2160, 0x2188), (0x24B6, 0x24E9), (0x2C00, 0x2CE4), (0x2CEB, 0x2CEE), (0x2CF2, 0x2CF3),
    (0x2D00, 0x2D25), (0x2D27, 0x2D27), (0x2D2D, 0x2D2D), (0x2D30, 0x2D67), (0x2D6F, 0x2D6F),
    (0x2D80, 0x2D96), (0x2DA0, 0x2DA6), (0x2DA8, 0x2DAE), (0x2DB0, 0x2DB6), (0x2DB8, 0x2DBE),
    (0x2DC0, 0x2DC6), (0x2DC8, 0x2DCE), (0x2DD0, 0x2DD6), (0x2DD8, 0x2DDE), (0x2DE0, 0x2DFF),
    (0x2E2F, 0x2E2F), (0x3005, 0x3007), (0x3021, 0x3029), (0x3031, 0x3035), (0x3038, 0x303C),
    (0x3041, 0x3096), (0x309D, 0x309F), (0x30A1, 0x30FA), (0x30FC, 0x30FF), (0x3105, 0x312F),
    (0x3131, 0x318E), (0x31A0, 0x31BF), (0x31F0, 0x31FF), (0x3400, 0x4DBF), (0x4E00, 0xA48C),
    (0xA4D0, 0xA4FD), (0xA500, 0xA60C), (0xA610, 0xA61F), (0xA62A, 0xA62B), (0xA640, 0xA66E),
    (0xA674, 0xA67B), (0xA67F, 0xA6EF), (0xA717, 0xA71F), (0xA722, 0xA788), (0xA78B, 0xA7DC),
    (0xA7F1, 0xA805), (0xA807, 0xA827), (0xA840, 0xA873), (0xA880, 0xA8C3), (0xA8C5, 0xA8C5),
    (0xA8F2, 0xA8F7), (0xA8FB, 0xA8FB), (0xA8FD, 0xA8FF), (0xA90A, 0xA92A), (0xA930, 0xA952),
    (0xA960, 0xA97C), (0xA980, 0xA9B2), (0xA9B4, 0xA9BF), (0xA9CF, 0xA9CF), (0xA9E0, 0xA9EF),
    (0xA9FA, 0xA9FE), (0xAA00, 0xAA36), (0xAA40, 0xAA4D), (0xAA60, 0xAA76), (0xAA7A, 0xAABE),
    (0xAAC0, 0xAAC0), (0xAAC2, 0xAAC2), (0xAADB, 0xAADD), (0xAAE0, 0xAAEF), (0xAAF2, 0xAAF5),
    (0xAB01, 0xAB06), (0xAB09, 0xAB0E), (0xAB11, 0xAB16), (0xAB20, 0xAB26), (0xAB28, 0xAB2E),
    (0xAB30, 0xAB5A), (0xAB5C, 0xAB69), (0xAB70, 0xABEA), (0xAC00, 0xD7A3), (0xD7B0, 0xD7C6),
    (0xD7CB, 0xD7FB), (0xF900, 0xFA6D), (0xFA70, 0xFAD9), (0xFB00, 0xFB06), (0xFB13, 0xFB17),
    (0xFB1D, 0xFB28), (0xFB2A, 0xFB36), (0xFB38, 0xFB3C), (0xFB3E, 0xFB3E), (0xFB40, 0xFB41),
    (0xFB43, 0xFB44), (0xFB46, 0xFBB1), (0xFBD3, 0xFD3D), (0xFD50, 0xFD8F), (0xFD92, 0xFDC7),
    (0xFDF0, 0xFDFB), (0xFE70, 0xFE74), (0xFE76, 0xFEFC), (0xFF21, 0xFF3A), (0xFF41, 0xFF5A),
    (0xFF66, 0xFFBE), (0xFFC2, 0xFFC7), (0xFFCA, 0xFFCF), (0xFFD2, 0xFFD7), (0xFFDA, 0xFFDC),
    (0x010000, 0x01000B), (0x01000D, 0x010026), (0x010028, 0x01003A), (0x01003C, 0x01003D),
    (0x01003F, 0x01004D), (0x010050, 0x01005D), (0x010080, 0x0100FA), (0x010140, 0x010174),
    (0x010280, 0x01029C), (0x0102A0, 0x0102D0), (0x010300, 0x01031F), (0x01032D, 0x01034A),
    (0x010350, 0x01037A), (0x010380, 0x01039D), (0x0103A0, 0x0103C3), (0x0103C8, 0x0103CF),
    (0x0103D1, 0x0103D5), (0x010400, 0x01049D), (0x0104B0, 0x0104D3), (0x0104D8, 0x0104FB),
    (0x010500, 0x010527), (0x010530, 0x010563), (0x010570, 0x01057A), (0x01057C, 0x01058A),
    (0x01058C, 0x010592), (0x010594, 0x010595), (0x010597, 0x0105A1), (0x0105A3, 0x0105B1),
    (0x0105B3, 0x0105B9), (0x0105BB, 0x0105BC), (0x0105C0, 0x0105F3), (0x010600, 0x010736),
    (0x010740, 0x010755), (0x010760, 0x010767), (0x010780, 0x010785), (0x010787, 0x0107B0),
    (0x0107B2, 0x0107BA), (0x010800, 0x010805), (0x010808, 0x010808), (0x01080A, 0x010835),
    (0x010837, 0x010838), (0x01083C, 0x01083C), (0x01083F, 0x010855), (0x010860, 0x010876),
    (0x010880, 0x01089E), (0x0108E0, 0x0108F2), (0x0108F4, 0x0108F5), (0x010900, 0x010915),
    (0x010920, 0x010939), (0x010940, 0x010959), (0x010980, 0x0109B7), (0x0109BE, 0x0109BF),
    (0x010A00, 0x010A03), (0x010A05, 0x010A06), (0x010A0C, 0x010A13), (0x010A15, 0x010A17),
    (0x010A19, 0x010A35), (0x010A60, 0x010A7C), (0x010A80, 0x010A9C), (0x010AC0, 0x010AC7),
    (0x010AC9, 0x010AE4), (0x010B00, 0x010B35), (0x010B40, 0x010B55), (0x010B60, 0x010B72),
    (0x010B80, 0x010B91), (0x010C00, 0x010C48), (0x010C80, 0x010CB2), (0x010CC0, 0x010CF2),
    (0x010D00, 0x010D27), (0x010D4A, 0x010D65), (0x010D69, 0x010D69), (0x010D6F, 0x010D85),
    (0x010E80, 0x010EA9), (0x010EAB, 0x010EAC), (0x010EB0, 0x010EB1), (0x010EC2, 0x010EC7),
    (0x010EFA, 0x010EFC), (0x010F00, 0x010F1C), (0x010F27, 0x010F27), (0x010F30, 0x010F45),
    (0x010F70, 0x010F81), (0x010FB0, 0x010FC4), (0x010FE0, 0x010FF6), (0x011000, 0x011045),
    (0x011071, 0x011075), (0x011080, 0x0110B8), (0x0110C2, 0x0110C2), (0x0110D0, 0x0110E8),
    (0x011100, 0x011132), (0x011144, 0x011147), (0x011150, 0x011172), (0x011176, 0x011176),
    (0x011180, 0x0111BF), (0x0111C1, 0x0111C4), (0x0111CE, 0x0111CF), (0x0111DA, 0x0111DA),
    (0x0111DC, 0x0111DC), (0x011200, 0x011211), (0x011213, 0x011234), (0x011237, 0x011237),
    (0x01123E, 0x011241), (0x011280, 0x011286), (0x011288, 0x011288), (0x01128A, 0x01128D),
    (0x01128F, 0x01129D), (0x01129F, 0x0112A8), (0x0112B0, 0x0112E8), (0x011300, 0x011303),
    (0x011305, 0x01130C), (0x01130F, 0x011310), (0x011313, 0x011328), (0x01132A, 0x011330),
    (0x011332, 0x011333), (0x011335, 0x011339), (0x01133D, 0x011344), (0x011347, 0x011348),
    (0x01134B, 0x01134C), (0x011350, 0x011350), (0x011357, 0x011357), (0x01135D, 0x011363),
    (0x011380, 0x011389), (0x01138B, 0x01138B), (0x01138E, 0x01138E), (0x011390, 0x0113B5),
    (0x0113B7, 0x0113C0), (0x0113C2, 0x0113C2), (0x0113C5, 0x0113C5), (0x0113C7, 0x0113CA),
    (0x0113CC, 0x0113CD), (0x0113D1, 0x0113D1), (0x0113D3, 0x0113D3), (0x011400, 0x011441),
    (0x011443, 0x011445), (0x011447, 0x01144A), (0x01145F, 0x011461), (0x011480, 0x0114C1),
    (0x0114C4, 0x0114C5), (0x0114C7, 0x0114C7), (0x011580, 0x0115B5), (0x0115B8, 0x0115BE),
    (0x0115D8, 0x0115DD), (0x011600, 0x01163E), (0x011640, 0x011640), (0x011644, 0x011644),
    (0x011680, 0x0116B5), (0x0116B8, 0x0116B8), (0x011700, 0x01171A), (0x01171D, 0x01172A),
    (0x011740, 0x011746), (0x011800, 0x011838), (0x0118A0, 0x0118DF), (0x0118FF, 0x011906),
    (0x011909, 0x011909), (0x01190C, 0x011913), (0x011915, 0x011916), (0x011918, 0x011935),
    (0x011937, 0x011938), (0x01193B, 0x01193C), (0x01193F, 0x011942), (0x0119A0, 0x0119A7),
    (0x0119AA, 0x0119D7), (0x0119DA, 0x0119DF), (0x0119E1, 0x0119E1), (0x0119E3, 0x0119E4),
    (0x011A00, 0x011A32), (0x011A35, 0x011A3E), (0x011A50, 0x011A97), (0x011A9D, 0x011A9D),
    (0x011AB0, 0x011AF8), (0x011B60, 0x011B67), (0x011BC0, 0x011BE0), (0x011C00, 0x011C08),
    (0x011C0A, 0x011C36), (0x011C38, 0x011C3E), (0x011C40, 0x011C40), (0x011C72, 0x011C8F),
    (0x011C92, 0x011CA7), (0x011CA9, 0x011CB6), (0x011D00, 0x011D06), (0x011D08, 0x011D09),
    (0x011D0B, 0x011D36), (0x011D3A, 0x011D3A), (0x011D3C, 0x011D3D), (0x011D3F, 0x011D41),
    (0x011D43, 0x011D43), (0x011D46, 0x011D47), (0x011D60, 0x011D65), (0x011D67, 0x011D68),
    (0x011D6A, 0x011D8E), (0x011D90, 0x011D91), (0x011D93, 0x011D96), (0x011D98, 0x011D98),
    (0x011DB0, 0x011DDB), (0x011EE0, 0x011EF6), (0x011F00, 0x011F10), (0x011F12, 0x011F3A),
    (0x011F3E, 0x011F40), (0x011FB0, 0x011FB0), (0x012000, 0x012399), (0x012400, 0x01246E),
    (0x012480, 0x012543), (0x012F90, 0x012FF0), (0x013000, 0x01342F), (0x013441, 0x013446),
    (0x013460, 0x0143FA), (0x014400, 0x014646), (0x016100, 0x01612E), (0x016800, 0x016A38),
    (0x016A40, 0x016A5E), (0x016A70, 0x016ABE), (0x016AD0, 0x016AED), (0x016B00, 0x016B2F),
    (0x016B40, 0x016B43), (0x016B63, 0x016B77), (0x016B7D, 0x016B8F), (0x016D40, 0x016D6C),
    (0x016E40, 0x016E7F), (0x016EA0, 0x016EB8), (0x016EBB, 0x016ED3), (0x016F00, 0x016F4A),
    (0x016F4F, 0x016F87), (0x016F8F, 0x016F9F), (0x016FE0, 0x016FE1), (0x016FE3, 0x016FE3),
    (0x016FF0, 0x016FF6), (0x017000, 0x018CD5), (0x018CFF, 0x018D1E), (0x018D80, 0x018DF2),
    (0x01AFF0, 0x01AFF3), (0x01AFF5, 0x01AFFB), (0x01AFFD, 0x01AFFE), (0x01B000, 0x01B122),
    (0x01B132, 0x01B132), (0x01B150, 0x01B152), (0x01B155, 0x01B155), (0x01B164, 0x01B167),
    (0x01B170, 0x01B2FB), (0x01BC00, 0x01BC6A), (0x01BC70, 0x01BC7C), (0x01BC80, 0x01BC88),
    (0x01BC90, 0x01BC99), (0x01BC9E, 0x01BC9E), (0x01D400, 0x01D454), (0x01D456, 0x01D49C),
    (0x01D49E, 0x01D49F), (0x01D4A2, 0x01D4A2), (0x01D4A5, 0x01D4A6), (0x01D4A9, 0x01D4AC),
    (0x01D4AE, 0x01D4B9), (0x01D4BB, 0x01D4BB), (0x01D4BD, 0x01D4C3), (0x01D4C5, 0x01D505),
    (0x01D507, 0x01D50A), (0x01D50D, 0x01D514), (0x01D516, 0x01D51C), (0x01D51E, 0x01D539),
    (0x01D53B, 0x01D53E), (0x01D540, 0x01D544), (0x01D546, 0x01D546), (0x01D54A, 0x01D550),
    (0x01D552, 0x01D6A5), (0x01D6A8, 0x01D6C0), (0x01D6C2, 0x01D6DA), (0x01D6DC, 0x01D6FA),
    (0x01D6FC, 0x01D714), (0x01D716, 0x01D734), (0x01D736, 0x01D74E), (0x01D750, 0x01D76E),
    (0x01D770, 0x01D788), (0x01D78A, 0x01D7A8), (0x01D7AA, 0x01D7C2), (0x01D7C4, 0x01D7CB),
    (0x01DF00, 0x01DF1E), (0x01DF25, 0x01DF2A), (0x01E000, 0x01E006), (0x01E008, 0x01E018),
    (0x01E01B, 0x01E021), (0x01E023, 0x01E024), (0x01E026, 0x01E02A), (0x01E030, 0x01E06D),
    (0x01E08F, 0x01E08F), (0x01E100, 0x01E12C), (0x01E137, 0x01E13D), (0x01E14E, 0x01E14E),
    (0x01E290, 0x01E2AD), (0x01E2C0, 0x01E2EB), (0x01E4D0, 0x01E4EB), (0x01E5D0, 0x01E5ED),
    (0x01E5F0, 0x01E5F0), (0x01E6C0, 0x01E6DE), (0x01E6E0, 0x01E6F5), (0x01E6FE, 0x01E6FF),
    (0x01E7E0, 0x01E7E6), (0x01E7E8, 0x01E7EB), (0x01E7ED, 0x01E7EE), (0x01E7F0, 0x01E7FE),
    (0x01E800, 0x01E8C4), (0x01E900, 0x01E943), (0x01E947, 0x01E947), (0x01E94B, 0x01E94B),
    (0x01EE00, 0x01EE03), (0x01EE05, 0x01EE1F), (0x01EE21, 0x01EE22), (0x01EE24, 0x01EE24),
    (0x01EE27, 0x01EE27), (0x01EE29, 0x01EE32), (0x01EE34, 0x01EE37), (0x01EE39, 0x01EE39),
    (0x01EE3B, 0x01EE3B), (0x01EE42, 0x01EE42), (0x01EE47, 0x01EE47), (0x01EE49, 0x01EE49),
    (0x01EE4B, 0x01EE4B), (0x01EE4D, 0x01EE4F), (0x01EE51, 0x01EE52), (0x01EE54, 0x01EE54),
    (0x01EE57, 0x01EE57), (0x01EE59, 0x01EE59), (0x01EE5B, 0x01EE5B), (0x01EE5D, 0x01EE5D),
    (0x01EE5F, 0x01EE5F), (0x01EE61, 0x01EE62), (0x01EE64, 0x01EE64), (0x01EE67, 0x01EE6A),
    (0x01EE6C, 0x01EE72), (0x01EE74, 0x01EE77), (0x01EE79, 0x01EE7C), (0x01EE7E, 0x01EE7E),
    (0x01EE80, 0x01EE89), (0x01EE8B, 0x01EE9B), (0x01EEA1, 0x01EEA3), (0x01EEA5, 0x01EEA9),
    (0x01EEAB, 0x01EEBB), (0x01F130, 0x01F149), (0x01F150, 0x01F169), (0x01F170, 0x01F189),
    (0x020000, 0x02A6DF), (0x02A700, 0x02B81D), (0x02B820, 0x02CEAD), (0x02CEB0, 0x02EBE0),
    (0x02EBF0, 0x02EE5D), (0x02F800, 0x02FA1D), (0x030000, 0x03134A), (0x031350, 0x033479)]

/-- The code points of the general categories `Nd`, `Nl` and `No`. -/
def numberRanges : List (Nat × Nat) :=
  [(0x30, 0x39), (0xB2, 0xB3), (0xB9, 0xB9), (0xBC, 0xBE), (0x0660, 0x0669), (0x06F0, 0x06F9),
    (0x07C0, 0x07C9), (0x0966, 0x096F), (0x09E6, 0x09EF), (0x09F4, 0x09F9), (0x0A66, 0x0A6F),
    (0x0AE6, 0x0AEF), (0x0B66, 0x0B6F), (0x0B72, 0x0B77), (0x0BE6, 0x0BF2), (0x0C66, 0x0C6F),
    (0x0C78, 0x0C7E), (0x0CE6, 0x0CEF), (0x0D58, 0x0D5E), (0x0D66, 0x0D78), (0x0DE6, 0x0DEF),
    (0x0E50, 0x0E59), (0x0ED0, 0x0ED9), (0x0F20, 0x0F33), (0x1040, 0x1049), (0x1090, 0x1099),
    (0x1369, 0x137C), (0x16EE, 0x16F0), (0x17E0, 0x17E9), (0x17F0, 0x17F9), (0x1810, 0x1819),
    (0x1946, 0x194F), (0x19D0, 0x19DA), (0x1A80, 0x1A89), (0x1A90, 0x1A99), (0x1B50, 0x1B59),
    (0x1BB0, 0x1BB9), (0x1C40, 0x1C49), (0x1C50, 0x1C59), (0x2070, 0x2070), (0x2074, 0x2079),
    (0x2080, 0x2089), (0x2150, 0x2182), (0x2185, 0x2189), (0x2460, 0x249B), (0x24EA, 0x24FF),
    (0x2776, 0x2793), (0x2CFD, 0x2CFD), (0x3007, 0x3007), (0x3021, 0x3029), (0x3038, 0x303A),
    (0x3192, 0x3195), (0x3220, 0x3229), (0x3248, 0x324F), (0x3251, 0x325F), (0x3280, 0x3289),
    (0x32B1, 0x32BF), (0xA620, 0xA629), (0xA6E6, 0xA6EF), (0xA830, 0xA835), (0xA8D0, 0xA8D9),
    (0xA900, 0xA909), (0xA9D0, 0xA9D9), (0xA9F0, 0xA9F9), (0xAA50, 0xAA59), (0xABF0, 0xABF9),
    (0xFF10, 0xFF19), (0x010107, 0x010133), (0x010140, 0x010178), (0x01018A, 0x01018B),
    (0x0102E1, 0x0102FB), (0x010320, 0x010323), (0x010341, 0x010341), (0x01034A, 0x01034A),
    (0x0103D1, 0x0103D5), (0x0104A0, 0x0104A9), (0x010858, 0x01085F), (0x010879, 0x01087F),
    (0x0108A7, 0x0108AF), (0x0108FB, 0x0108FF), (0x010916, 0x01091B), (0x0109BC, 0x0109BD),
    (0x0109C0, 0x0109CF), (0x0109D2, 0x0109FF), (0x010A40, 0x010A48), (0x010A7D, 0x010A7E),
    (0x010A9D, 0x010A9F), (0x010AEB, 0x010AEF), (0x010B58, 0x010B5F), (0x010B78, 0x010B7F),
    (0x010BA9, 0x010BAF), (0x010CFA, 0x010CFF), (0x010D30, 0x010D39), (0x010D40, 0x010D49),
    (0x010E60, 0x010E7E), (0x010F1D, 0x010F26), (0x010F51, 0x010F54), (0x010FC5, 0x010FCB),
    (0x011052, 0x01106F), (0x0110F0, 0x0110F9), (0x011136, 0x01113F), (0x0111D0, 0x0111D9),
    (0x0111E1, 0x0111F4), (0x0112F0, 0x0112F9), (0x011450, 0x011459), (0x0114D0, 0x0114D9),
    (0x011650, 0x011659), (0x0116C0, 0x0116C9), (0x0116D0, 0x0116E3), (0x011730, 0x01173B),
    (0x0118E0, 0x0118F2), (0x011950, 0x011959), (0x011BF0, 0x011BF9), (0x011C50, 0x011C6C),
    (0x011D50, 0x011D59), (0x011DA0, 0x011DA9), (0x011DE0, 0x011DE9), (0x011F50, 0x011F59),
    (0x011FC0, 0x011FD4), (0x012400, 0x01246E), (0x016130, 0x016139), (0x016A60, 0x016A69),
    (0x016AC0, 0x016AC9), (0x016B50, 0x016B59), (0x016B5B, 0x016B61), (0x016D70, 0x016D79),
    (0x016E80, 0x016E96), (0x016FF4, 0x016FF6), (0x01CCF0, 0x01CCF9), (0x01D2C0, 0x01D2D3),
    (0x01D2E0, 0x01D2F3), (0x01D360, 0x01D378), (0x01D7CE, 0x01D7FF), (0x01E140, 0x01E149),
    (0x01E2F0, 0x01E2F9), (0x01E4F0, 0x01E4F9), (0x01E5F1, 0x01E5FA), (0x01E8C7, 0x01E8CF),
    (0x01E950, 0x01E959), (0x01EC71, 0x01ECAB), (0x01ECAD, 0x01ECAF), (0x01ECB1, 0x01ECB4),
    (0x01ED01, 0x01ED2D), (0x01ED2F, 0x01ED3D), (0x01F100, 0x01F10C), (0x01FBF0, 0x01FBF9)]

def isAlphabetic (c : Char) : Bool := within alphabeticRanges c.toNat

def isNumber (c : Char) : Bool := within numberRanges c.toNat

def isAlphanumeric (c : Char) : Bool := isAlphabetic c || isNumber c

end ClusterGate.Text
