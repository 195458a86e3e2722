import TaskRunner.Text.Visible

/-!
# Classes and widths of characters as data

The tables behind `Classes`, for the characters beyond ASCII: which are letters, which are capital or small letters
although they have no other case, which are shown although they have no form of their own, and how many places a
character takes when it does not take one. A range may run over characters that are not shown.
-/

namespace TaskRunner.Text.Classes

/-- The letters, with the digits of other scripts. -/
def letterRanges : List (Nat × Nat) := [
  (0x00AA, 0x00AA), (0x00B5, 0x00B5), (0x00BA, 0x00BA), (0x00C0, 0x00D6), (0x00D8, 0x00F6), (0x00F8, 0x02C1),
  (0x02C6, 0x02D1), (0x02E0, 0x02E4), (0x02EC, 0x02EC), (0x02EE, 0x02EE), (0x0345, 0x0345), (0x0370, 0x0374),
  (0x0376, 0x037D), (0x037F, 0x037F), (0x0386, 0x0386), (0x0388, 0x03F5), (0x03F7, 0x0481), (0x048A, 0x0559),
  (0x0560, 0x0588), (0x05B0, 0x05BD), (0x05BF, 0x05BF), (0x05C1, 0x05C2), (0x05C4, 0x05C5), (0x05C7, 0x05F2),
  (0x0610, 0x061A), (0x0620, 0x0657), (0x0659, 0x0669), (0x066E, 0x06D3), (0x06D5, 0x06DC), (0x06E1, 0x06E8),
  (0x06ED, 0x06FC), (0x06FF, 0x06FF), (0x0710, 0x073F), (0x074D, 0x07EA), (0x07F4, 0x07F5), (0x07FA, 0x07FA),
  (0x0800, 0x0817), (0x081A, 0x082C), (0x0840, 0x0858), (0x0860, 0x0887), (0x0889, 0x088E), (0x08A0, 0x08C9),
  (0x08D4, 0x08DF), (0x08E3, 0x08E9), (0x08F0, 0x093B), (0x093D, 0x094C), (0x094E, 0x0950), (0x0955, 0x0963),
  (0x0966, 0x096F), (0x0971, 0x09B9), (0x09BD, 0x09CC), (0x09CE, 0x09F1), (0x09FC, 0x09FC), (0x0A01, 0x0A39),
  (0x0A3E, 0x0A4C), (0x0A51, 0x0A75), (0x0A81, 0x0AB9), (0x0ABD, 0x0ACC), (0x0AD0, 0x0AEF), (0x0AF9, 0x0AFC),
  (0x0B01, 0x0B39), (0x0B3D, 0x0B4C), (0x0B56, 0x0B6F), (0x0B71, 0x0B71), (0x0B82, 0x0BCC), (0x0BD0, 0x0BEF),
  (0x0C00, 0x0C39), (0x0C3D, 0x0C4C), (0x0C55, 0x0C6F), (0x0C80, 0x0C83), (0x0C85, 0x0CB9), (0x0CBD, 0x0CCC),
  (0x0CD5, 0x0D3A), (0x0D3D, 0x0D4C), (0x0D4E, 0x0D4E), (0x0D54, 0x0D57), (0x0D5F, 0x0D6F), (0x0D7A, 0x0DC6),
  (0x0DCF, 0x0DF3), (0x0E01, 0x0E3A), (0x0E40, 0x0E46), (0x0E4D, 0x0E4D), (0x0E50, 0x0E59), (0x0E81, 0x0EB9),
  (0x0EBB, 0x0EC6), (0x0ECD, 0x0F00), (0x0F20, 0x0F29), (0x0F40, 0x0F83), (0x0F88, 0x0FBC), (0x1000, 0x1036),
  (0x1038, 0x1038), (0x103B, 0x1049), (0x1050, 0x109D), (0x10A0, 0x10FA), (0x10FC, 0x135A), (0x1380, 0x138F),
  (0x13A0, 0x13FD), (0x1401, 0x166C), (0x166F, 0x169A), (0x16A0, 0x16EA), (0x16EE, 0x1713), (0x171F, 0x1733),
  (0x1740, 0x17B3), (0x17B6, 0x17C8), (0x17D7, 0x17D7), (0x17DC, 0x17DC), (0x17E0, 0x17E9), (0x1810, 0x1938),
  (0x1946, 0x19D9), (0x1A00, 0x1A1B), (0x1A20, 0x1A5E), (0x1A61, 0x1A74), (0x1A80, 0x1A99), (0x1AA7, 0x1AA7),
  (0x1ABF, 0x1AC0), (0x1ACC, 0x1B33), (0x1B35, 0x1B43), (0x1B45, 0x1B59), (0x1B80, 0x1BA9), (0x1BAC, 0x1BE5),
  (0x1BE7, 0x1BF1), (0x1C00, 0x1C36), (0x1C40, 0x1C7D), (0x1C80, 0x1CBF), (0x1CE9, 0x1CEC), (0x1CEE, 0x1CF3),
  (0x1CF5, 0x1CF6), (0x1CFA, 0x1DBF), (0x1DE7, 0x1DF4), (0x1E00, 0x1FBC), (0x1FBE, 0x1FBE), (0x1FC2, 0x1FCC),
  (0x1FD0, 0x1FDB), (0x1FE0, 0x1FEC), (0x1FF2, 0x1FFC), (0x2071, 0x2071), (0x207F, 0x207F), (0x2090, 0x209C),
  (0x2102, 0x2102), (0x2107, 0x2107), (0x210A, 0x2113), (0x2115, 0x2115), (0x2119, 0x211D), (0x2124, 0x2124),
  (0x2126, 0x2126), (0x2128, 0x2128), (0x212A, 0x212D), (0x212F, 0x2139), (0x213C, 0x213F), (0x2145, 0x2149),
  (0x214E, 0x214E), (0x2160, 0x2188), (0x24B6, 0x24E9), (0x2C00, 0x2CE4), (0x2CEB, 0x2CEE), (0x2CF2, 0x2CF3),
  (0x2D00, 0x2D6F), (0x2D80, 0x2DFF), (0x2E2F, 0x2E2F), (0x3005, 0x3007), (0x3021, 0x3029), (0x3031, 0x3035),
  (0x3038, 0x303C), (0x3041, 0x3096), (0x309D, 0x309F), (0x30A1, 0x30FA), (0x30FC, 0x318E), (0x31A0, 0x31BF),
  (0x31F0, 0x31FF), (0x3400, 0x4DBF), (0x4E00, 0xA48C), (0xA4D0, 0xA4FD), (0xA500, 0xA60C), (0xA610, 0xA66E),
  (0xA674, 0xA67B), (0xA67F, 0xA6EF), (0xA717, 0xA71F), (0xA722, 0xA788), (0xA78B, 0xA805), (0xA807, 0xA827),
  (0xA840, 0xA873), (0xA880, 0xA8C3), (0xA8C5, 0xA8C5), (0xA8D0, 0xA8D9), (0xA8F2, 0xA8F7), (0xA8FB, 0xA8FB),
  (0xA8FD, 0xA92A), (0xA930, 0xA952), (0xA960, 0xA9B2), (0xA9B4, 0xA9BF), (0xA9CF, 0xA9D9), (0xA9E0, 0xAA59),
  (0xAA60, 0xAA76), (0xAA7A, 0xAABE), (0xAAC0, 0xAAC0), (0xAAC2, 0xAADD), (0xAAE0, 0xAAEF), (0xAAF2, 0xAAF5),
  (0xAB01, 0xAB5A), (0xAB5C, 0xAB69), (0xAB70, 0xABEA), (0xABF0, 0xD7FB), (0xF900, 0xFB28), (0xFB2A, 0xFBB1),
  (0xFBD3, 0xFD3D), (0xFD50, 0xFDC7), (0xFDF0, 0xFDFB), (0xFE70, 0xFEFC), (0xFF10, 0xFF19), (0xFF21, 0xFF3A),
  (0xFF41, 0xFF5A), (0xFF66, 0xFFDC), (0x10000, 0x100FA), (0x10140, 0x10174), (0x10280, 0x102D0), (0x10300, 0x1031F),
  (0x1032D, 0x1039D), (0x103A0, 0x103CF), (0x103D1, 0x10563), (0x10570, 0x10855), (0x10860, 0x10876),
  (0x10880, 0x1089E), (0x108E0, 0x108F5), (0x10900, 0x10915), (0x10920, 0x10939), (0x10980, 0x109B7),
  (0x109BE, 0x109BF), (0x10A00, 0x10A35), (0x10A60, 0x10A7C), (0x10A80, 0x10A9C), (0x10AC0, 0x10AC7),
  (0x10AC9, 0x10AE4), (0x10B00, 0x10B35), (0x10B40, 0x10B55), (0x10B60, 0x10B72), (0x10B80, 0x10B91),
  (0x10C00, 0x10CF2), (0x10D00, 0x10D39), (0x10E80, 0x10EAC), (0x10EB0, 0x10F1C), (0x10F27, 0x10F45),
  (0x10F70, 0x10F81), (0x10FB0, 0x10FC4), (0x10FE0, 0x11045), (0x11066, 0x1106F), (0x11071, 0x11075),
  (0x11080, 0x110B8), (0x110C2, 0x110C2), (0x110D0, 0x11132), (0x11136, 0x1113F), (0x11144, 0x11172),
  (0x11176, 0x111BF), (0x111C1, 0x111C4), (0x111CE, 0x111DA), (0x111DC, 0x111DC), (0x11200, 0x11234),
  (0x11237, 0x11237), (0x1123E, 0x112A8), (0x112B0, 0x112E8), (0x112F0, 0x11339), (0x1133D, 0x1134C),
  (0x11350, 0x11363), (0x11400, 0x11441), (0x11443, 0x11445), (0x11447, 0x1144A), (0x11450, 0x11459),
  (0x1145F, 0x114C1), (0x114C4, 0x114C5), (0x114C7, 0x115BE), (0x115D8, 0x1163E), (0x11640, 0x11640),
  (0x11644, 0x11659), (0x11680, 0x116B5), (0x116B8, 0x116B8), (0x116C0, 0x1172A), (0x11730, 0x11739),
  (0x11740, 0x11838), (0x118A0, 0x118E9), (0x118FF, 0x1193C), (0x1193F, 0x11942), (0x11950, 0x119DF),
  (0x119E1, 0x119E1), (0x119E3, 0x11A32), (0x11A35, 0x11A3E), (0x11A50, 0x11A97), (0x11A9D, 0x11A9D),
  (0x11AB0, 0x11C3E), (0x11C40, 0x11C40), (0x11C50, 0x11C59), (0x11C72, 0x11D41), (0x11D43, 0x11D43),
  (0x11D46, 0x11D96), (0x11D98, 0x11EF6), (0x11FB0, 0x11FB0), (0x12000, 0x1246E), (0x12480, 0x12FF0),
  (0x13000, 0x1342E), (0x14400, 0x16A69), (0x16A70, 0x16AED), (0x16B00, 0x16B2F), (0x16B40, 0x16B43),
  (0x16B50, 0x16B59), (0x16B63, 0x16E7F), (0x16F00, 0x16FE1), (0x16FE3, 0x16FE3), (0x16FF0, 0x1BC99),
  (0x1BC9E, 0x1BC9E), (0x1D400, 0x1D6C0), (0x1D6C2, 0x1D6DA), (0x1D6DC, 0x1D6FA), (0x1D6FC, 0x1D714),
  (0x1D716, 0x1D734), (0x1D736, 0x1D74E), (0x1D750, 0x1D76E), (0x1D770, 0x1D788), (0x1D78A, 0x1D7A8),
  (0x1D7AA, 0x1D7C2), (0x1D7C4, 0x1D7FF), (0x1DF00, 0x1E12C), (0x1E137, 0x1E14E), (0x1E290, 0x1E2AD),
  (0x1E2C0, 0x1E2EB), (0x1E2F0, 0x1E2F9), (0x1E7E0, 0x1E8C4), (0x1E900, 0x1E943), (0x1E947, 0x1E947),
  (0x1E94B, 0x1E959), (0x1EE00, 0x1EEBB), (0x1F130, 0x1F149), (0x1F150, 0x1F169), (0x1F170, 0x1F189),
  (0x1FBF0, 0x3134A)]

/-- The characters that are shown although they have no visible form. -/
def formlessRanges : List (Nat × Nat) := [
  (0x00A0, 0x00A0), (0x00AD, 0x00AD), (0x0600, 0x0605), (0x061C, 0x061C), (0x06DD, 0x06DD), (0x070F, 0x070F),
  (0x0890, 0x0891), (0x08E2, 0x08E2), (0x180E, 0x180E), (0x2007, 0x2007), (0x200B, 0x200F), (0x202A, 0x202F),
  (0x2060, 0x2064), (0x2066, 0x206F), (0xE000, 0xF8FF), (0xFEFF, 0xFEFF), (0xFFF9, 0xFFFB), (0x110BD, 0x110BD),
  (0x110CD, 0x110CD), (0x13430, 0x13438), (0x1BCA0, 0x1BCA3), (0x1D173, 0x1D17A), (0xE0001, 0xE0001),
  (0xE0020, 0xE007F), (0xF0000, 0xFFFFD), (0x100000, 0x10FFFD)]

/-- The capital letters without a small form: runs of them, with the distance of each to the next. -/
def capitalRuns : List (Nat × Nat × Nat) := [
  (0x0130, 0x0130, 1), (0x03D2, 0x03D4, 1), (0x2102, 0x2102, 1), (0x2107, 0x2107, 1), (0x210B, 0x210D, 1),
  (0x2110, 0x2112, 1), (0x2115, 0x2115, 1), (0x2119, 0x211D, 1), (0x2124, 0x2124, 1), (0x2128, 0x2128, 1),
  (0x212C, 0x212D, 1), (0x2130, 0x2131, 1), (0x2133, 0x2133, 1), (0x213E, 0x213F, 1), (0x2145, 0x2145, 1),
  (0x1D400, 0x1D419, 1), (0x1D434, 0x1D44D, 1), (0x1D468, 0x1D481, 1), (0x1D49C, 0x1D49E, 2), (0x1D49F, 0x1D49F, 1),
  (0x1D4A2, 0x1D4A2, 1), (0x1D4A5, 0x1D4A6, 1), (0x1D4A9, 0x1D4AC, 1), (0x1D4AE, 0x1D4B5, 1), (0x1D4D0, 0x1D4E9, 1),
  (0x1D504, 0x1D505, 1), (0x1D507, 0x1D50A, 1), (0x1D50D, 0x1D514, 1), (0x1D516, 0x1D51C, 1), (0x1D538, 0x1D539, 1),
  (0x1D53B, 0x1D53E, 1), (0x1D540, 0x1D544, 1), (0x1D546, 0x1D546, 1), (0x1D54A, 0x1D550, 1), (0x1D56C, 0x1D585, 1),
  (0x1D5A0, 0x1D5B9, 1), (0x1D5D4, 0x1D5ED, 1), (0x1D608, 0x1D621, 1), (0x1D63C, 0x1D655, 1), (0x1D670, 0x1D689, 1),
  (0x1D6A8, 0x1D6C0, 1), (0x1D6E2, 0x1D6FA, 1), (0x1D71C, 0x1D734, 1), (0x1D756, 0x1D76E, 1), (0x1D790, 0x1D7A8, 1),
  (0x1D7CA, 0x1D7CA, 1), (0x1F130, 0x1F149, 1), (0x1F150, 0x1F169, 1), (0x1F170, 0x1F189, 1)]

/-- The small letters without a capital form of one character. -/
def smallRuns : List (Nat × Nat × Nat) := [
  (0x00AA, 0x00AA, 1), (0x00BA, 0x00BA, 1), (0x00DF, 0x00DF, 1), (0x0138, 0x0138, 1), (0x0149, 0x0149, 1),
  (0x018D, 0x018D, 1), (0x019B, 0x019B, 1), (0x01AA, 0x01AB, 1), (0x01BA, 0x01BA, 1), (0x01BE, 0x01BE, 1),
  (0x01F0, 0x01F0, 1), (0x0221, 0x0221, 1), (0x0234, 0x0239, 1), (0x0255, 0x0255, 1), (0x0258, 0x025A, 2),
  (0x025D, 0x025F, 1), (0x0262, 0x0264, 2), (0x0267, 0x0267, 1), (0x026D, 0x026E, 1), (0x0270, 0x0270, 1),
  (0x0273, 0x0274, 1), (0x0276, 0x027C, 1), (0x027E, 0x027F, 1), (0x0281, 0x0281, 1), (0x0284, 0x0286, 1),
  (0x028D, 0x0291, 1), (0x0293, 0x0295, 2), (0x0296, 0x029C, 1), (0x029F, 0x02B8, 1), (0x02C0, 0x02C1, 1),
  (0x02E0, 0x02E4, 1), (0x037A, 0x037A, 1), (0x0390, 0x0390, 1), (0x03B0, 0x03B0, 1), (0x03FC, 0x03FC, 1),
  (0x0560, 0x0560, 1), (0x0587, 0x0588, 1), (0x10FC, 0x10FC, 1), (0x1D00, 0x1D78, 1), (0x1D7A, 0x1D7C, 1),
  (0x1D7E, 0x1D8D, 1), (0x1D8F, 0x1DBF, 1), (0x1E96, 0x1E9A, 1), (0x1E9C, 0x1E9D, 1), (0x1E9F, 0x1E9F, 1),
  (0x1F50, 0x1F56, 2), (0x1F80, 0x1F87, 1), (0x1F90, 0x1F97, 1), (0x1FA0, 0x1FA7, 1), (0x1FB2, 0x1FB4, 1),
  (0x1FB6, 0x1FB7, 1), (0x1FC2, 0x1FC4, 1), (0x1FC6, 0x1FC7, 1), (0x1FD2, 0x1FD3, 1), (0x1FD6, 0x1FD7, 1),
  (0x1FE2, 0x1FE4, 1), (0x1FE6, 0x1FE7, 1), (0x1FF2, 0x1FF4, 1), (0x1FF6, 0x1FF7, 1), (0x2071, 0x2071, 1),
  (0x207F, 0x207F, 1), (0x2090, 0x209C, 1), (0x210A, 0x210A, 1), (0x210E, 0x210F, 1), (0x2113, 0x2113, 1),
  (0x212F, 0x212F, 1), (0x2134, 0x2134, 1), (0x2139, 0x2139, 1), (0x213C, 0x213D, 1), (0x2146, 0x2149, 1),
  (0x2C71, 0x2C71, 1), (0x2C74, 0x2C74, 1), (0x2C77, 0x2C7D, 1), (0x2CE4, 0x2CE4, 1), (0xA69C, 0xA69D, 1),
  (0xA730, 0xA731, 1), (0xA770, 0xA778, 1), (0xA78E, 0xA78E, 1), (0xA795, 0xA795, 1), (0xA7AF, 0xA7AF, 1),
  (0xA7D3, 0xA7D5, 2), (0xA7F2, 0xA7F4, 1), (0xA7F8, 0xA7FA, 1), (0xAB30, 0xAB52, 1), (0xAB54, 0xAB5A, 1),
  (0xAB5C, 0xAB69, 1), (0xFB00, 0xFB06, 1), (0xFB13, 0xFB17, 1), (0x10780, 0x10780, 1), (0x10783, 0x10785, 1),
  (0x10787, 0x107B0, 1), (0x107B2, 0x107BA, 1), (0x1D41A, 0x1D433, 1), (0x1D44E, 0x1D454, 1), (0x1D456, 0x1D467, 1),
  (0x1D482, 0x1D49B, 1), (0x1D4B6, 0x1D4B9, 1), (0x1D4BB, 0x1D4BD, 2), (0x1D4BE, 0x1D4C3, 1), (0x1D4C5, 0x1D4CF, 1),
  (0x1D4EA, 0x1D503, 1), (0x1D51E, 0x1D537, 1), (0x1D552, 0x1D56B, 1), (0x1D586, 0x1D59F, 1), (0x1D5BA, 0x1D5D3, 1),
  (0x1D5EE, 0x1D607, 1), (0x1D622, 0x1D63B, 1), (0x1D656, 0x1D66F, 1), (0x1D68A, 0x1D6A5, 1), (0x1D6C2, 0x1D6DA, 1),
  (0x1D6DC, 0x1D6E1, 1), (0x1D6FC, 0x1D714, 1), (0x1D716, 0x1D71B, 1), (0x1D736, 0x1D74E, 1), (0x1D750, 0x1D755, 1),
  (0x1D770, 0x1D788, 1), (0x1D78A, 0x1D78F, 1), (0x1D7AA, 0x1D7C2, 1), (0x1D7C4, 0x1D7C9, 1), (0x1D7CB, 0x1D7CB, 1),
  (0x1DF00, 0x1DF09, 1), (0x1DF0B, 0x1DF1E, 1)]

/-- The characters that take no place. -/
def emptyRanges : List (Nat × Nat) := [
  (0x0000, 0x0000), (0x0300, 0x036F), (0x0483, 0x0489), (0x0591, 0x05BD), (0x05BF, 0x05BF), (0x05C1, 0x05C2),
  (0x05C4, 0x05C5), (0x05C7, 0x05C7), (0x0610, 0x061A), (0x061C, 0x061C), (0x064B, 0x065F), (0x0670, 0x0670),
  (0x06D6, 0x06DC), (0x06DF, 0x06E4), (0x06E7, 0x06E8), (0x06EA, 0x06ED), (0x0711, 0x0711), (0x0730, 0x074A),
  (0x07A6, 0x07B0), (0x07EB, 0x07F3), (0x07FD, 0x07FD), (0x0816, 0x0819), (0x081B, 0x0823), (0x0825, 0x0827),
  (0x0829, 0x082D), (0x0859, 0x085B), (0x0898, 0x089F), (0x08CA, 0x08E1), (0x08E3, 0x0902), (0x093A, 0x093A),
  (0x093C, 0x093C), (0x0941, 0x0948), (0x094D, 0x094D), (0x0951, 0x0957), (0x0962, 0x0963), (0x0981, 0x0981),
  (0x09BC, 0x09BC), (0x09C1, 0x09C4), (0x09CD, 0x09CD), (0x09E2, 0x09E3), (0x09FE, 0x0A02), (0x0A3C, 0x0A3C),
  (0x0A41, 0x0A51), (0x0A70, 0x0A71), (0x0A75, 0x0A75), (0x0A81, 0x0A82), (0x0ABC, 0x0ABC), (0x0AC1, 0x0AC8),
  (0x0ACD, 0x0ACD), (0x0AE2, 0x0AE3), (0x0AFA, 0x0B01), (0x0B3C, 0x0B3C), (0x0B3F, 0x0B3F), (0x0B41, 0x0B44),
  (0x0B4D, 0x0B56), (0x0B62, 0x0B63), (0x0B82, 0x0B82), (0x0BC0, 0x0BC0), (0x0BCD, 0x0BCD), (0x0C00, 0x0C00),
  (0x0C04, 0x0C04), (0x0C3C, 0x0C3C), (0x0C3E, 0x0C40), (0x0C46, 0x0C56), (0x0C62, 0x0C63), (0x0C81, 0x0C81),
  (0x0CBC, 0x0CBC), (0x0CBF, 0x0CBF), (0x0CC6, 0x0CC6), (0x0CCC, 0x0CCD), (0x0CE2, 0x0CE3), (0x0D00, 0x0D01),
  (0x0D3B, 0x0D3C), (0x0D41, 0x0D44), (0x0D4D, 0x0D4D), (0x0D62, 0x0D63), (0x0D81, 0x0D81), (0x0DCA, 0x0DCA),
  (0x0DD2, 0x0DD6), (0x0E31, 0x0E31), (0x0E34, 0x0E3A), (0x0E47, 0x0E4E), (0x0EB1, 0x0EB1), (0x0EB4, 0x0EBC),
  (0x0EC8, 0x0ECD), (0x0F18, 0x0F19), (0x0F35, 0x0F35), (0x0F37, 0x0F37), (0x0F39, 0x0F39), (0x0F71, 0x0F7E),
  (0x0F80, 0x0F84), (0x0F86, 0x0F87), (0x0F8D, 0x0FBC), (0x0FC6, 0x0FC6), (0x102D, 0x1030), (0x1032, 0x1037),
  (0x1039, 0x103A), (0x103D, 0x103E), (0x1058, 0x1059), (0x105E, 0x1060), (0x1071, 0x1074), (0x1082, 0x1082),
  (0x1085, 0x1086), (0x108D, 0x108D), (0x109D, 0x109D), (0x1160, 0x11FF), (0x135D, 0x135F), (0x1712, 0x1714),
  (0x1732, 0x1733), (0x1752, 0x1753), (0x1772, 0x1773), (0x17B4, 0x17B5), (0x17B7, 0x17BD), (0x17C6, 0x17C6),
  (0x17C9, 0x17D3), (0x17DD, 0x17DD), (0x180B, 0x180F), (0x1885, 0x1886), (0x18A9, 0x18A9), (0x1920, 0x1922),
  (0x1927, 0x1928), (0x1932, 0x1932), (0x1939, 0x193B), (0x1A17, 0x1A18), (0x1A1B, 0x1A1B), (0x1A56, 0x1A56),
  (0x1A58, 0x1A60), (0x1A62, 0x1A62), (0x1A65, 0x1A6C), (0x1A73, 0x1A7F), (0x1AB0, 0x1B03), (0x1B34, 0x1B34),
  (0x1B36, 0x1B3A), (0x1B3C, 0x1B3C), (0x1B42, 0x1B42), (0x1B6B, 0x1B73), (0x1B80, 0x1B81), (0x1BA2, 0x1BA5),
  (0x1BA8, 0x1BA9), (0x1BAB, 0x1BAD), (0x1BE6, 0x1BE6), (0x1BE8, 0x1BE9), (0x1BED, 0x1BED), (0x1BEF, 0x1BF1),
  (0x1C2C, 0x1C33), (0x1C36, 0x1C37), (0x1CD0, 0x1CD2), (0x1CD4, 0x1CE0), (0x1CE2, 0x1CE8), (0x1CED, 0x1CED),
  (0x1CF4, 0x1CF4), (0x1CF8, 0x1CF9), (0x1DC0, 0x1DFF), (0x200B, 0x200F), (0x202A, 0x202E), (0x2060, 0x206F),
  (0x20D0, 0x20F0), (0x2CEF, 0x2CF1), (0x2D7F, 0x2D7F), (0x2DE0, 0x2DFF), (0x302A, 0x302D), (0x3099, 0x309A),
  (0xA66F, 0xA672), (0xA674, 0xA67D), (0xA69E, 0xA69F), (0xA6F0, 0xA6F1), (0xA802, 0xA802), (0xA806, 0xA806),
  (0xA80B, 0xA80B), (0xA825, 0xA826), (0xA82C, 0xA82C), (0xA8C4, 0xA8C5), (0xA8E0, 0xA8F1), (0xA8FF, 0xA8FF),
  (0xA926, 0xA92D), (0xA947, 0xA951), (0xA980, 0xA982), (0xA9B3, 0xA9B3), (0xA9B6, 0xA9B9), (0xA9BC, 0xA9BD),
  (0xA9E5, 0xA9E5), (0xAA29, 0xAA2E), (0xAA31, 0xAA32), (0xAA35, 0xAA36), (0xAA43, 0xAA43), (0xAA4C, 0xAA4C),
  (0xAA7C, 0xAA7C), (0xAAB0, 0xAAB0), (0xAAB2, 0xAAB4), (0xAAB7, 0xAAB8), (0xAABE, 0xAABF), (0xAAC1, 0xAAC1),
  (0xAAEC, 0xAAED), (0xAAF6, 0xAAF6), (0xABE5, 0xABE5), (0xABE8, 0xABE8), (0xABED, 0xABED), (0xD7B0, 0xD7FB),
  (0xFB1E, 0xFB1E), (0xFE00, 0xFE0F), (0xFE20, 0xFE2F), (0xFEFF, 0xFEFF), (0xFFF9, 0xFFFB), (0x101FD, 0x101FD),
  (0x102E0, 0x102E0), (0x10376, 0x1037A), (0x10A01, 0x10A0F), (0x10A38, 0x10A3F), (0x10AE5, 0x10AE6),
  (0x10D24, 0x10D27), (0x10EAB, 0x10EAC), (0x10F46, 0x10F50), (0x10F82, 0x10F85), (0x11001, 0x11001),
  (0x11038, 0x11046), (0x11070, 0x11070), (0x11073, 0x11074), (0x1107F, 0x11081), (0x110B3, 0x110B6),
  (0x110B9, 0x110BA), (0x110C2, 0x110C2), (0x11100, 0x11102), (0x11127, 0x1112B), (0x1112D, 0x11134),
  (0x11173, 0x11173), (0x11180, 0x11181), (0x111B6, 0x111BE), (0x111C9, 0x111CC), (0x111CF, 0x111CF),
  (0x1122F, 0x11231), (0x11234, 0x11234), (0x11236, 0x11237), (0x1123E, 0x1123E), (0x112DF, 0x112DF),
  (0x112E3, 0x112EA), (0x11300, 0x11301), (0x1133B, 0x1133C), (0x11340, 0x11340), (0x11366, 0x11374),
  (0x11438, 0x1143F), (0x11442, 0x11444), (0x11446, 0x11446), (0x1145E, 0x1145E), (0x114B3, 0x114B8),
  (0x114BA, 0x114BA), (0x114BF, 0x114C0), (0x114C2, 0x114C3), (0x115B2, 0x115B5), (0x115BC, 0x115BD),
  (0x115BF, 0x115C0), (0x115DC, 0x115DD), (0x11633, 0x1163A), (0x1163D, 0x1163D), (0x1163F, 0x11640),
  (0x116AB, 0x116AB), (0x116AD, 0x116AD), (0x116B0, 0x116B5), (0x116B7, 0x116B7), (0x1171D, 0x1171F),
  (0x11722, 0x11725), (0x11727, 0x1172B), (0x1182F, 0x11837), (0x11839, 0x1183A), (0x1193B, 0x1193C),
  (0x1193E, 0x1193E), (0x11943, 0x11943), (0x119D4, 0x119DB), (0x119E0, 0x119E0), (0x11A01, 0x11A0A),
  (0x11A33, 0x11A38), (0x11A3B, 0x11A3E), (0x11A47, 0x11A47), (0x11A51, 0x11A56), (0x11A59, 0x11A5B),
  (0x11A8A, 0x11A96), (0x11A98, 0x11A99), (0x11C30, 0x11C3D), (0x11C3F, 0x11C3F), (0x11C92, 0x11CA7),
  (0x11CAA, 0x11CB0), (0x11CB2, 0x11CB3), (0x11CB5, 0x11CB6), (0x11D31, 0x11D45), (0x11D47, 0x11D47),
  (0x11D90, 0x11D91), (0x11D95, 0x11D95), (0x11D97, 0x11D97), (0x11EF3, 0x11EF4), (0x13430, 0x13438),
  (0x16AF0, 0x16AF4), (0x16B30, 0x16B36), (0x16F4F, 0x16F4F), (0x16F8F, 0x16F92), (0x16FE4, 0x16FE4),
  (0x1BC9D, 0x1BC9E), (0x1BCA0, 0x1CF46), (0x1D167, 0x1D169), (0x1D173, 0x1D182), (0x1D185, 0x1D18B),
  (0x1D1AA, 0x1D1AD), (0x1D242, 0x1D244), (0x1DA00, 0x1DA36), (0x1DA3B, 0x1DA6C), (0x1DA75, 0x1DA75),
  (0x1DA84, 0x1DA84), (0x1DA9B, 0x1DAAF), (0x1E000, 0x1E02A), (0x1E130, 0x1E136), (0x1E2AE, 0x1E2AE),
  (0x1E2EC, 0x1E2EF), (0x1E8D0, 0x1E8D6), (0x1E944, 0x1E94A), (0xE0001, 0xE01EF)]

/-- The characters that take two places. -/
def wideRanges : List (Nat × Nat) := [
  (0x1100, 0x115F), (0x231A, 0x231B), (0x2329, 0x232A), (0x23E9, 0x23EC), (0x23F0, 0x23F0), (0x23F3, 0x23F3),
  (0x25FD, 0x25FE), (0x2614, 0x2615), (0x2648, 0x2653), (0x267F, 0x267F), (0x2693, 0x2693), (0x26A1, 0x26A1),
  (0x26AA, 0x26AB), (0x26BD, 0x26BE), (0x26C4, 0x26C5), (0x26CE, 0x26CE), (0x26D4, 0x26D4), (0x26EA, 0x26EA),
  (0x26F2, 0x26F3), (0x26F5, 0x26F5), (0x26FA, 0x26FA), (0x26FD, 0x26FD), (0x2705, 0x2705), (0x270A, 0x270B),
  (0x2728, 0x2728), (0x274C, 0x274C), (0x274E, 0x274E), (0x2753, 0x2755), (0x2757, 0x2757), (0x2795, 0x2797),
  (0x27B0, 0x27B0), (0x27BF, 0x27BF), (0x2B1B, 0x2B1C), (0x2B50, 0x2B50), (0x2B55, 0x2B55), (0x2E80, 0x3029),
  (0x302E, 0x303E), (0x3041, 0x3096), (0x309B, 0xA4C6), (0xA960, 0xA97C), (0xAC00, 0xD7A3), (0xF900, 0xFAD9),
  (0xFE10, 0xFE19), (0xFE30, 0xFE6B), (0xFF01, 0xFF60), (0xFFE0, 0xFFE6), (0x16FE0, 0x16FE3), (0x16FF0, 0x1B2FB),
  (0x1F004, 0x1F004), (0x1F0CF, 0x1F0CF), (0x1F18E, 0x1F18E), (0x1F191, 0x1F19A), (0x1F200, 0x1F320),
  (0x1F32D, 0x1F335), (0x1F337, 0x1F37C), (0x1F37E, 0x1F393), (0x1F3A0, 0x1F3CA), (0x1F3CF, 0x1F3D3),
  (0x1F3E0, 0x1F3F0), (0x1F3F4, 0x1F3F4), (0x1F3F8, 0x1F43E), (0x1F440, 0x1F440), (0x1F442, 0x1F4FC),
  (0x1F4FF, 0x1F53D), (0x1F54B, 0x1F54E), (0x1F550, 0x1F567), (0x1F57A, 0x1F57A), (0x1F595, 0x1F596),
  (0x1F5A4, 0x1F5A4), (0x1F5FB, 0x1F64F), (0x1F680, 0x1F6C5), (0x1F6CC, 0x1F6CC), (0x1F6D0, 0x1F6D2),
  (0x1F6D5, 0x1F6DF), (0x1F6EB, 0x1F6EC), (0x1F6F4, 0x1F6FC), (0x1F7E0, 0x1F7F0), (0x1F90C, 0x1F93A),
  (0x1F93C, 0x1F945), (0x1F947, 0x1F9FF), (0x1FA70, 0x1FAF6), (0x20000, 0x3134A)]

end TaskRunner.Text.Classes
