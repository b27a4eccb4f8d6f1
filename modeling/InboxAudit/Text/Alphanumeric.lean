import InboxAudit.Text.Blank

/-!
# Letters and numbers

The characters that can be part of a word in some script: those with the `Alphabetic` property, and
digits and other numbers.
-/

namespace InboxAudit.Text
set_option autoImplicit false

/-- Half-open ranges of the code points that are alphabetic or numbers. -/
def alphanumericRanges : List (Nat × Nat) :=
  [(0x30, 0x3A), (0x41, 0x5B), (0x61, 0x7B), (0xAA, 0xAB), (0xB2, 0xB4), (0xB5, 0xB6), (0xB9, 0xBB),
   (0xBC, 0xBF), (0xC0, 0xD7), (0xD8, 0xF7), (0xF8, 0x2C2), (0x2C6, 0x2D2), (0x2E0, 0x2E5),
   (0x2EC, 0x2ED), (0x2EE, 0x2EF), (0x345, 0x346), (0x363, 0x375), (0x376, 0x378), (0x37A, 0x37E),
   (0x37F, 0x380), (0x386, 0x387), (0x388, 0x38B), (0x38C, 0x38D), (0x38E, 0x3A2), (0x3A3, 0x3F6),
   (0x3F7, 0x482), (0x48A, 0x530), (0x531, 0x557), (0x559, 0x55A), (0x560, 0x589), (0x5B0, 0x5BE),
   (0x5BF, 0x5C0), (0x5C1, 0x5C3), (0x5C4, 0x5C6), (0x5C7, 0x5C8), (0x5D0, 0x5EB), (0x5EF, 0x5F3),
   (0x610, 0x61B), (0x620, 0x658), (0x659, 0x66A), (0x66E, 0x6D4), (0x6D5, 0x6DD), (0x6E1, 0x6E9),
   (0x6ED, 0x6FD), (0x6FF, 0x700), (0x710, 0x740), (0x74D, 0x7B2), (0x7C0, 0x7EB), (0x7F4, 0x7F6),
   (0x7FA, 0x7FB), (0x800, 0x818), (0x81A, 0x82D), (0x840, 0x859), (0x860, 0x86B), (0x870, 0x888),
   (0x889, 0x890), (0x897, 0x898), (0x8A0, 0x8CA), (0x8D4, 0x8E0), (0x8E3, 0x8EA), (0x8F0, 0x93C),
   (0x93D, 0x94D), (0x94E, 0x951), (0x955, 0x964), (0x966, 0x970), (0x971, 0x984), (0x985, 0x98D),
   (0x98F, 0x991), (0x993, 0x9A9), (0x9AA, 0x9B1), (0x9B2, 0x9B3), (0x9B6, 0x9BA), (0x9BD, 0x9C5),
   (0x9C7, 0x9C9), (0x9CB, 0x9CD), (0x9CE, 0x9CF), (0x9D7, 0x9D8), (0x9DC, 0x9DE), (0x9DF, 0x9E4),
   (0x9E6, 0x9F2), (0x9F4, 0x9FA), (0x9FC, 0x9FD), (0xA01, 0xA04), (0xA05, 0xA0B), (0xA0F, 0xA11),
   (0xA13, 0xA29), (0xA2A, 0xA31), (0xA32, 0xA34), (0xA35, 0xA37), (0xA38, 0xA3A), (0xA3E, 0xA43),
   (0xA47, 0xA49), (0xA4B, 0xA4D), (0xA51, 0xA52), (0xA59, 0xA5D), (0xA5E, 0xA5F), (0xA66, 0xA76),
   (0xA81, 0xA84), (0xA85, 0xA8E), (0xA8F, 0xA92), (0xA93, 0xAA9), (0xAAA, 0xAB1), (0xAB2, 0xAB4),
   (0xAB5, 0xABA), (0xABD, 0xAC6), (0xAC7, 0xACA), (0xACB, 0xACD), (0xAD0, 0xAD1), (0xAE0, 0xAE4),
   (0xAE6, 0xAF0), (0xAF9, 0xAFD), (0xB01, 0xB04), (0xB05, 0xB0D), (0xB0F, 0xB11), (0xB13, 0xB29),
   (0xB2A, 0xB31), (0xB32, 0xB34), (0xB35, 0xB3A), (0xB3D, 0xB45), (0xB47, 0xB49), (0xB4B, 0xB4D),
   (0xB56, 0xB58), (0xB5C, 0xB5E), (0xB5F, 0xB64), (0xB66, 0xB70), (0xB71, 0xB78), (0xB82, 0xB84),
   (0xB85, 0xB8B), (0xB8E, 0xB91), (0xB92, 0xB96), (0xB99, 0xB9B), (0xB9C, 0xB9D), (0xB9E, 0xBA0),
   (0xBA3, 0xBA5), (0xBA8, 0xBAB), (0xBAE, 0xBBA), (0xBBE, 0xBC3), (0xBC6, 0xBC9), (0xBCA, 0xBCD),
   (0xBD0, 0xBD1), (0xBD7, 0xBD8), (0xBE6, 0xBF3), (0xC00, 0xC0D), (0xC0E, 0xC11), (0xC12, 0xC29),
   (0xC2A, 0xC3A), (0xC3D, 0xC45), (0xC46, 0xC49), (0xC4A, 0xC4D), (0xC55, 0xC57), (0xC58, 0xC5B),
   (0xC5C, 0xC5E), (0xC60, 0xC64), (0xC66, 0xC70), (0xC78, 0xC7F), (0xC80, 0xC84), (0xC85, 0xC8D),
   (0xC8E, 0xC91), (0xC92, 0xCA9), (0xCAA, 0xCB4), (0xCB5, 0xCBA), (0xCBD, 0xCC5), (0xCC6, 0xCC9),
   (0xCCA, 0xCCD), (0xCD5, 0xCD7), (0xCDC, 0xCDF), (0xCE0, 0xCE4), (0xCE6, 0xCF0), (0xCF1, 0xCF4),
   (0xD00, 0xD0D), (0xD0E, 0xD11), (0xD12, 0xD3B), (0xD3D, 0xD45), (0xD46, 0xD49), (0xD4A, 0xD4D),
   (0xD4E, 0xD4F), (0xD54, 0xD64), (0xD66, 0xD79), (0xD7A, 0xD80), (0xD81, 0xD84), (0xD85, 0xD97),
   (0xD9A, 0xDB2), (0xDB3, 0xDBC), (0xDBD, 0xDBE), (0xDC0, 0xDC7), (0xDCF, 0xDD5), (0xDD6, 0xDD7),
   (0xDD8, 0xDE0), (0xDE6, 0xDF0), (0xDF2, 0xDF4), (0xE01, 0xE3B), (0xE40, 0xE47), (0xE4D, 0xE4E),
   (0xE50, 0xE5A), (0xE81, 0xE83), (0xE84, 0xE85), (0xE86, 0xE8B), (0xE8C, 0xEA4), (0xEA5, 0xEA6),
   (0xEA7, 0xEBA), (0xEBB, 0xEBE), (0xEC0, 0xEC5), (0xEC6, 0xEC7), (0xECD, 0xECE), (0xED0, 0xEDA),
   (0xEDC, 0xEE0), (0xF00, 0xF01), (0xF20, 0xF34), (0xF40, 0xF48), (0xF49, 0xF6D), (0xF71, 0xF84),
   (0xF88, 0xF98), (0xF99, 0xFBD), (0x1000, 0x1037), (0x1038, 0x1039), (0x103B, 0x104A),
   (0x1050, 0x109E), (0x10A0, 0x10C6), (0x10C7, 0x10C8), (0x10CD, 0x10CE), (0x10D0, 0x10FB),
   (0x10FC, 0x1249), (0x124A, 0x124E), (0x1250, 0x1257), (0x1258, 0x1259), (0x125A, 0x125E),
   (0x1260, 0x1289), (0x128A, 0x128E), (0x1290, 0x12B1), (0x12B2, 0x12B6), (0x12B8, 0x12BF),
   (0x12C0, 0x12C1), (0x12C2, 0x12C6), (0x12C8, 0x12D7), (0x12D8, 0x1311), (0x1312, 0x1316),
   (0x1318, 0x135B), (0x1369, 0x137D), (0x1380, 0x1390), (0x13A0, 0x13F6), (0x13F8, 0x13FE),
   (0x1401, 0x166D), (0x166F, 0x1680), (0x1681, 0x169B), (0x16A0, 0x16EB), (0x16EE, 0x16F9),
   (0x1700, 0x1714), (0x171F, 0x1734), (0x1740, 0x1754), (0x1760, 0x176D), (0x176E, 0x1771),
   (0x1772, 0x1774), (0x1780, 0x17B4), (0x17B6, 0x17C9), (0x17D7, 0x17D8), (0x17DC, 0x17DD),
   (0x17E0, 0x17EA), (0x17F0, 0x17FA), (0x1810, 0x181A), (0x1820, 0x1879), (0x1880, 0x18AB),
   (0x18B0, 0x18F6), (0x1900, 0x191F), (0x1920, 0x192C), (0x1930, 0x1939), (0x1946, 0x196E),
   (0x1970, 0x1975), (0x1980, 0x19AC), (0x19B0, 0x19CA), (0x19D0, 0x19DB), (0x1A00, 0x1A1C),
   (0x1A20, 0x1A5F), (0x1A61, 0x1A75), (0x1A80, 0x1A8A), (0x1A90, 0x1A9A), (0x1AA7, 0x1AA8),
   (0x1ABF, 0x1AC1), (0x1ACC, 0x1ACF), (0x1B00, 0x1B34), (0x1B35, 0x1B44), (0x1B45, 0x1B4D),
   (0x1B50, 0x1B5A), (0x1B80, 0x1BAA), (0x1BAC, 0x1BE6), (0x1BE7, 0x1BF2), (0x1C00, 0x1C37),
   (0x1C40, 0x1C4A), (0x1C4D, 0x1C7E), (0x1C80, 0x1C8B), (0x1C90, 0x1CBB), (0x1CBD, 0x1CC0),
   (0x1CE9, 0x1CED), (0x1CEE, 0x1CF4), (0x1CF5, 0x1CF7), (0x1CFA, 0x1CFB), (0x1D00, 0x1DC0),
   (0x1DD3, 0x1DF5), (0x1E00, 0x1F16), (0x1F18, 0x1F1E), (0x1F20, 0x1F46), (0x1F48, 0x1F4E),
   (0x1F50, 0x1F58), (0x1F59, 0x1F5A), (0x1F5B, 0x1F5C), (0x1F5D, 0x1F5E), (0x1F5F, 0x1F7E),
   (0x1F80, 0x1FB5), (0x1FB6, 0x1FBD), (0x1FBE, 0x1FBF), (0x1FC2, 0x1FC5), (0x1FC6, 0x1FCD),
   (0x1FD0, 0x1FD4), (0x1FD6, 0x1FDC), (0x1FE0, 0x1FED), (0x1FF2, 0x1FF5), (0x1FF6, 0x1FFD),
   (0x2070, 0x2072), (0x2074, 0x207A), (0x207F, 0x208A), (0x2090, 0x209D), (0x2102, 0x2103),
   (0x2107, 0x2108), (0x210A, 0x2114), (0x2115, 0x2116), (0x2119, 0x211E), (0x2124, 0x2125),
   (0x2126, 0x2127), (0x2128, 0x2129), (0x212A, 0x212E), (0x212F, 0x213A), (0x213C, 0x2140),
   (0x2145, 0x214A), (0x214E, 0x214F), (0x2150, 0x218A), (0x2460, 0x249C), (0x24B6, 0x2500),
   (0x2776, 0x2794), (0x2C00, 0x2CE5), (0x2CEB, 0x2CEF), (0x2CF2, 0x2CF4), (0x2CFD, 0x2CFE),
   (0x2D00, 0x2D26), (0x2D27, 0x2D28), (0x2D2D, 0x2D2E), (0x2D30, 0x2D68), (0x2D6F, 0x2D70),
   (0x2D80, 0x2D97), (0x2DA0, 0x2DA7), (0x2DA8, 0x2DAF), (0x2DB0, 0x2DB7), (0x2DB8, 0x2DBF),
   (0x2DC0, 0x2DC7), (0x2DC8, 0x2DCF), (0x2DD0, 0x2DD7), (0x2DD8, 0x2DDF), (0x2DE0, 0x2E00),
   (0x2E2F, 0x2E30), (0x3005, 0x3008), (0x3021, 0x302A), (0x3031, 0x3036), (0x3038, 0x303D),
   (0x3041, 0x3097), (0x309D, 0x30A0), (0x30A1, 0x30FB), (0x30FC, 0x3100), (0x3105, 0x3130),
   (0x3131, 0x318F), (0x3192, 0x3196), (0x31A0, 0x31C0), (0x31F0, 0x3200), (0x3220, 0x322A),
   (0x3248, 0x3250), (0x3251, 0x3260), (0x3280, 0x328A), (0x32B1, 0x32C0), (0x3400, 0x4DC0),
   (0x4E00, 0xA48D), (0xA4D0, 0xA4FE), (0xA500, 0xA60D), (0xA610, 0xA62C), (0xA640, 0xA66F),
   (0xA674, 0xA67C), (0xA67F, 0xA6F0), (0xA717, 0xA720), (0xA722, 0xA789), (0xA78B, 0xA7DD),
   (0xA7F1, 0xA806), (0xA807, 0xA828), (0xA830, 0xA836), (0xA840, 0xA874), (0xA880, 0xA8C4),
   (0xA8C5, 0xA8C6), (0xA8D0, 0xA8DA), (0xA8F2, 0xA8F8), (0xA8FB, 0xA8FC), (0xA8FD, 0xA92B),
   (0xA930, 0xA953), (0xA960, 0xA97D), (0xA980, 0xA9B3), (0xA9B4, 0xA9C0), (0xA9CF, 0xA9DA),
   (0xA9E0, 0xA9FF), (0xAA00, 0xAA37), (0xAA40, 0xAA4E), (0xAA50, 0xAA5A), (0xAA60, 0xAA77),
   (0xAA7A, 0xAABF), (0xAAC0, 0xAAC1), (0xAAC2, 0xAAC3), (0xAADB, 0xAADE), (0xAAE0, 0xAAF0),
   (0xAAF2, 0xAAF6), (0xAB01, 0xAB07), (0xAB09, 0xAB0F), (0xAB11, 0xAB17), (0xAB20, 0xAB27),
   (0xAB28, 0xAB2F), (0xAB30, 0xAB5B), (0xAB5C, 0xAB6A), (0xAB70, 0xABEB), (0xABF0, 0xABFA),
   (0xAC00, 0xD7A4), (0xD7B0, 0xD7C7), (0xD7CB, 0xD7FC), (0xF900, 0xFA6E), (0xFA70, 0xFADA),
   (0xFB00, 0xFB07), (0xFB13, 0xFB18), (0xFB1D, 0xFB29), (0xFB2A, 0xFB37), (0xFB38, 0xFB3D),
   (0xFB3E, 0xFB3F), (0xFB40, 0xFB42), (0xFB43, 0xFB45), (0xFB46, 0xFBB2), (0xFBD3, 0xFD3E),
   (0xFD50, 0xFD90), (0xFD92, 0xFDC8), (0xFDF0, 0xFDFC), (0xFE70, 0xFE75), (0xFE76, 0xFEFD),
   (0xFF10, 0xFF1A), (0xFF21, 0xFF3B), (0xFF41, 0xFF5B), (0xFF66, 0xFFBF), (0xFFC2, 0xFFC8),
   (0xFFCA, 0xFFD0), (0xFFD2, 0xFFD8), (0xFFDA, 0xFFDD), (0x10000, 0x1000C), (0x1000D, 0x10027),
   (0x10028, 0x1003B), (0x1003C, 0x1003E), (0x1003F, 0x1004E), (0x10050, 0x1005E),
   (0x10080, 0x100FB), (0x10107, 0x10134), (0x10140, 0x10179), (0x1018A, 0x1018C),
   (0x10280, 0x1029D), (0x102A0, 0x102D1), (0x102E1, 0x102FC), (0x10300, 0x10324),
   (0x1032D, 0x1034B), (0x10350, 0x1037B), (0x10380, 0x1039E), (0x103A0, 0x103C4),
   (0x103C8, 0x103D0), (0x103D1, 0x103D6), (0x10400, 0x1049E), (0x104A0, 0x104AA),
   (0x104B0, 0x104D4), (0x104D8, 0x104FC), (0x10500, 0x10528), (0x10530, 0x10564),
   (0x10570, 0x1057B), (0x1057C, 0x1058B), (0x1058C, 0x10593), (0x10594, 0x10596),
   (0x10597, 0x105A2), (0x105A3, 0x105B2), (0x105B3, 0x105BA), (0x105BB, 0x105BD),
   (0x105C0, 0x105F4), (0x10600, 0x10737), (0x10740, 0x10756), (0x10760, 0x10768),
   (0x10780, 0x10786), (0x10787, 0x107B1), (0x107B2, 0x107BB), (0x10800, 0x10806),
   (0x10808, 0x10809), (0x1080A, 0x10836), (0x10837, 0x10839), (0x1083C, 0x1083D),
   (0x1083F, 0x10856), (0x10858, 0x10877), (0x10879, 0x1089F), (0x108A7, 0x108B0),
   (0x108E0, 0x108F3), (0x108F4, 0x108F6), (0x108FB, 0x1091C), (0x10920, 0x1093A),
   (0x10940, 0x1095A), (0x10980, 0x109B8), (0x109BC, 0x109D0), (0x109D2, 0x10A04),
   (0x10A05, 0x10A07), (0x10A0C, 0x10A14), (0x10A15, 0x10A18), (0x10A19, 0x10A36),
   (0x10A40, 0x10A49), (0x10A60, 0x10A7F), (0x10A80, 0x10AA0), (0x10AC0, 0x10AC8),
   (0x10AC9, 0x10AE5), (0x10AEB, 0x10AF0), (0x10B00, 0x10B36), (0x10B40, 0x10B56),
   (0x10B58, 0x10B73), (0x10B78, 0x10B92), (0x10BA9, 0x10BB0), (0x10C00, 0x10C49),
   (0x10C80, 0x10CB3), (0x10CC0, 0x10CF3), (0x10CFA, 0x10D28), (0x10D30, 0x10D3A),
   (0x10D40, 0x10D66), (0x10D69, 0x10D6A), (0x10D6F, 0x10D86), (0x10E60, 0x10E7F),
   (0x10E80, 0x10EAA), (0x10EAB, 0x10EAD), (0x10EB0, 0x10EB2), (0x10EC2, 0x10EC8),
   (0x10EFA, 0x10EFD), (0x10F00, 0x10F28), (0x10F30, 0x10F46), (0x10F51, 0x10F55),
   (0x10F70, 0x10F82), (0x10FB0, 0x10FCC), (0x10FE0, 0x10FF7), (0x11000, 0x11046),
   (0x11052, 0x11070), (0x11071, 0x11076), (0x11080, 0x110B9), (0x110C2, 0x110C3),
   (0x110D0, 0x110E9), (0x110F0, 0x110FA), (0x11100, 0x11133), (0x11136, 0x11140),
   (0x11144, 0x11148), (0x11150, 0x11173), (0x11176, 0x11177), (0x11180, 0x111C0),
   (0x111C1, 0x111C5), (0x111CE, 0x111DB), (0x111DC, 0x111DD), (0x111E1, 0x111F5),
   (0x11200, 0x11212), (0x11213, 0x11235), (0x11237, 0x11238), (0x1123E, 0x11242),
   (0x11280, 0x11287), (0x11288, 0x11289), (0x1128A, 0x1128E), (0x1128F, 0x1129E),
   (0x1129F, 0x112A9), (0x112B0, 0x112E9), (0x112F0, 0x112FA), (0x11300, 0x11304),
   (0x11305, 0x1130D), (0x1130F, 0x11311), (0x11313, 0x11329), (0x1132A, 0x11331),
   (0x11332, 0x11334), (0x11335, 0x1133A), (0x1133D, 0x11345), (0x11347, 0x11349),
   (0x1134B, 0x1134D), (0x11350, 0x11351), (0x11357, 0x11358), (0x1135D, 0x11364),
   (0x11380, 0x1138A), (0x1138B, 0x1138C), (0x1138E, 0x1138F), (0x11390, 0x113B6),
   (0x113B7, 0x113C1), (0x113C2, 0x113C3), (0x113C5, 0x113C6), (0x113C7, 0x113CB),
   (0x113CC, 0x113CE), (0x113D1, 0x113D2), (0x113D3, 0x113D4), (0x11400, 0x11442),
   (0x11443, 0x11446), (0x11447, 0x1144B), (0x11450, 0x1145A), (0x1145F, 0x11462),
   (0x11480, 0x114C2), (0x114C4, 0x114C6), (0x114C7, 0x114C8), (0x114D0, 0x114DA),
   (0x11580, 0x115B6), (0x115B8, 0x115BF), (0x115D8, 0x115DE), (0x11600, 0x1163F),
   (0x11640, 0x11641), (0x11644, 0x11645), (0x11650, 0x1165A), (0x11680, 0x116B6),
   (0x116B8, 0x116B9), (0x116C0, 0x116CA), (0x116D0, 0x116E4), (0x11700, 0x1171B),
   (0x1171D, 0x1172B), (0x11730, 0x1173C), (0x11740, 0x11747), (0x11800, 0x11839),
   (0x118A0, 0x118F3), (0x118FF, 0x11907), (0x11909, 0x1190A), (0x1190C, 0x11914),
   (0x11915, 0x11917), (0x11918, 0x11936), (0x11937, 0x11939), (0x1193B, 0x1193D),
   (0x1193F, 0x11943), (0x11950, 0x1195A), (0x119A0, 0x119A8), (0x119AA, 0x119D8),
   (0x119DA, 0x119E0), (0x119E1, 0x119E2), (0x119E3, 0x119E5), (0x11A00, 0x11A33),
   (0x11A35, 0x11A3F), (0x11A50, 0x11A98), (0x11A9D, 0x11A9E), (0x11AB0, 0x11AF9),
   (0x11B60, 0x11B68), (0x11BC0, 0x11BE1), (0x11BF0, 0x11BFA), (0x11C00, 0x11C09),
   (0x11C0A, 0x11C37), (0x11C38, 0x11C3F), (0x11C40, 0x11C41), (0x11C50, 0x11C6D),
   (0x11C72, 0x11C90), (0x11C92, 0x11CA8), (0x11CA9, 0x11CB7), (0x11D00, 0x11D07),
   (0x11D08, 0x11D0A), (0x11D0B, 0x11D37), (0x11D3A, 0x11D3B), (0x11D3C, 0x11D3E),
   (0x11D3F, 0x11D42), (0x11D43, 0x11D44), (0x11D46, 0x11D48), (0x11D50, 0x11D5A),
   (0x11D60, 0x11D66), (0x11D67, 0x11D69), (0x11D6A, 0x11D8F), (0x11D90, 0x11D92),
   (0x11D93, 0x11D97), (0x11D98, 0x11D99), (0x11DA0, 0x11DAA), (0x11DB0, 0x11DDC),
   (0x11DE0, 0x11DEA), (0x11EE0, 0x11EF7), (0x11F00, 0x11F11), (0x11F12, 0x11F3B),
   (0x11F3E, 0x11F41), (0x11F50, 0x11F5A), (0x11FB0, 0x11FB1), (0x11FC0, 0x11FD5),
   (0x12000, 0x1239A), (0x12400, 0x1246F), (0x12480, 0x12544), (0x12F90, 0x12FF1),
   (0x13000, 0x13430), (0x13441, 0x13447), (0x13460, 0x143FB), (0x14400, 0x14647),
   (0x16100, 0x1612F), (0x16130, 0x1613A), (0x16800, 0x16A39), (0x16A40, 0x16A5F),
   (0x16A60, 0x16A6A), (0x16A70, 0x16ABF), (0x16AC0, 0x16ACA), (0x16AD0, 0x16AEE),
   (0x16B00, 0x16B30), (0x16B40, 0x16B44), (0x16B50, 0x16B5A), (0x16B5B, 0x16B62),
   (0x16B63, 0x16B78), (0x16B7D, 0x16B90), (0x16D40, 0x16D6D), (0x16D70, 0x16D7A),
   (0x16E40, 0x16E97), (0x16EA0, 0x16EB9), (0x16EBB, 0x16ED4), (0x16F00, 0x16F4B),
   (0x16F4F, 0x16F88), (0x16F8F, 0x16FA0), (0x16FE0, 0x16FE2), (0x16FE3, 0x16FE4),
   (0x16FF0, 0x16FF7), (0x17000, 0x18CD6), (0x18CFF, 0x18D1F), (0x18D80, 0x18DF3),
   (0x1AFF0, 0x1AFF4), (0x1AFF5, 0x1AFFC), (0x1AFFD, 0x1AFFF), (0x1B000, 0x1B123),
   (0x1B132, 0x1B133), (0x1B150, 0x1B153), (0x1B155, 0x1B156), (0x1B164, 0x1B168),
   (0x1B170, 0x1B2FC), (0x1BC00, 0x1BC6B), (0x1BC70, 0x1BC7D), (0x1BC80, 0x1BC89),
   (0x1BC90, 0x1BC9A), (0x1BC9E, 0x1BC9F), (0x1CCF0, 0x1CCFA), (0x1D2C0, 0x1D2D4),
   (0x1D2E0, 0x1D2F4), (0x1D360, 0x1D379), (0x1D400, 0x1D455), (0x1D456, 0x1D49D),
   (0x1D49E, 0x1D4A0), (0x1D4A2, 0x1D4A3), (0x1D4A5, 0x1D4A7), (0x1D4A9, 0x1D4AD),
   (0x1D4AE, 0x1D4BA), (0x1D4BB, 0x1D4BC), (0x1D4BD, 0x1D4C4), (0x1D4C5, 0x1D506),
   (0x1D507, 0x1D50B), (0x1D50D, 0x1D515), (0x1D516, 0x1D51D), (0x1D51E, 0x1D53A),
   (0x1D53B, 0x1D53F), (0x1D540, 0x1D545), (0x1D546, 0x1D547), (0x1D54A, 0x1D551),
   (0x1D552, 0x1D6A6), (0x1D6A8, 0x1D6C1), (0x1D6C2, 0x1D6DB), (0x1D6DC, 0x1D6FB),
   (0x1D6FC, 0x1D715), (0x1D716, 0x1D735), (0x1D736, 0x1D74F), (0x1D750, 0x1D76F),
   (0x1D770, 0x1D789), (0x1D78A, 0x1D7A9), (0x1D7AA, 0x1D7C3), (0x1D7C4, 0x1D7CC),
   (0x1D7CE, 0x1D800), (0x1DF00, 0x1DF1F), (0x1DF25, 0x1DF2B), (0x1E000, 0x1E007),
   (0x1E008, 0x1E019), (0x1E01B, 0x1E022), (0x1E023, 0x1E025), (0x1E026, 0x1E02B),
   (0x1E030, 0x1E06E), (0x1E08F, 0x1E090), (0x1E100, 0x1E12D), (0x1E137, 0x1E13E),
   (0x1E140, 0x1E14A), (0x1E14E, 0x1E14F), (0x1E290, 0x1E2AE), (0x1E2C0, 0x1E2EC),
   (0x1E2F0, 0x1E2FA), (0x1E4D0, 0x1E4EC), (0x1E4F0, 0x1E4FA), (0x1E5D0, 0x1E5EE),
   (0x1E5F0, 0x1E5FB), (0x1E6C0, 0x1E6DF), (0x1E6E0, 0x1E6F6), (0x1E6FE, 0x1E700),
   (0x1E7E0, 0x1E7E7), (0x1E7E8, 0x1E7EC), (0x1E7ED, 0x1E7EF), (0x1E7F0, 0x1E7FF),
   (0x1E800, 0x1E8C5), (0x1E8C7, 0x1E8D0), (0x1E900, 0x1E944), (0x1E947, 0x1E948),
   (0x1E94B, 0x1E94C), (0x1E950, 0x1E95A), (0x1EC71, 0x1ECAC), (0x1ECAD, 0x1ECB0),
   (0x1ECB1, 0x1ECB5), (0x1ED01, 0x1ED2E), (0x1ED2F, 0x1ED3E), (0x1EE00, 0x1EE04),
   (0x1EE05, 0x1EE20), (0x1EE21, 0x1EE23), (0x1EE24, 0x1EE25), (0x1EE27, 0x1EE28),
   (0x1EE29, 0x1EE33), (0x1EE34, 0x1EE38), (0x1EE39, 0x1EE3A), (0x1EE3B, 0x1EE3C),
   (0x1EE42, 0x1EE43), (0x1EE47, 0x1EE48), (0x1EE49, 0x1EE4A), (0x1EE4B, 0x1EE4C),
   (0x1EE4D, 0x1EE50), (0x1EE51, 0x1EE53), (0x1EE54, 0x1EE55), (0x1EE57, 0x1EE58),
   (0x1EE59, 0x1EE5A), (0x1EE5B, 0x1EE5C), (0x1EE5D, 0x1EE5E), (0x1EE5F, 0x1EE60),
   (0x1EE61, 0x1EE63), (0x1EE64, 0x1EE65), (0x1EE67, 0x1EE6B), (0x1EE6C, 0x1EE73),
   (0x1EE74, 0x1EE78), (0x1EE79, 0x1EE7D), (0x1EE7E, 0x1EE7F), (0x1EE80, 0x1EE8A),
   (0x1EE8B, 0x1EE9C), (0x1EEA1, 0x1EEA4), (0x1EEA5, 0x1EEAA), (0x1EEAB, 0x1EEBC),
   (0x1F100, 0x1F10D), (0x1F130, 0x1F14A), (0x1F150, 0x1F16A), (0x1F170, 0x1F18A),
   (0x1FBF0, 0x1FBFA), (0x20000, 0x2A6E0), (0x2A700, 0x2B81E), (0x2B820, 0x2CEAE),
   (0x2CEB0, 0x2EBE1), (0x2EBF0, 0x2EE5E), (0x2F800, 0x2FA1E), (0x30000, 0x3134B),
   (0x31350, 0x3347A)]

/-- A letter, a digit or another number of some script. -/
def isAlphanumeric (c : Char) : Bool :=
  inRanges alphanumericRanges c.toNat

end InboxAudit.Text
