import BotOps.Text.Property
import BotOps.Text.Ranges

/-!
# Scripts of Europe

The scripts of Europe, living and ancient. Each has a code and names.
-/

namespace BotOps.Text

set_option maxRecDepth 4000 in
/-- The characters of each script, by its names. -/
def europeanScripts : List Property :=
  [⟨["latn", "latin"],
      [(0x41, 0x5a), (0x61, 0x7a), (0xaa, 0xaa), (0xba, 0xba), (0xc0, 0xd6), (0xd8, 0xf6),
        (0xf8, 0x2b8), (0x2e0, 0x2e4), (0x1d00, 0x1d25), (0x1d2c, 0x1d5c), (0x1d62, 0x1d65),
        (0x1d6b, 0x1d77), (0x1d79, 0x1dbe), (0x1e00, 0x1eff), (0x2071, 0x2071), (0x207f, 0x207f),
        (0x2090, 0x209c), (0x212a, 0x212b), (0x2132, 0x2132), (0x214e, 0x214e), (0x2160, 0x2188),
        (0x2c60, 0x2c7f), (0xa722, 0xa787), (0xa78b, 0xa7cd), (0xa7d0, 0xa7d1), (0xa7d3, 0xa7d3),
        (0xa7d5, 0xa7dc), (0xa7f2, 0xa7ff), (0xab30, 0xab5a), (0xab5c, 0xab64), (0xab66, 0xab69),
        (0xfb00, 0xfb06), (0xff21, 0xff3a), (0xff41, 0xff5a), (0x10780, 0x10785),
        (0x10787, 0x107b0), (0x107b2, 0x107ba), (0x1df00, 0x1df1e), (0x1df25, 0x1df2a)]⟩,
    ⟨["grek", "greek"],
      [(0x370, 0x373), (0x375, 0x377), (0x37a, 0x37d), (0x37f, 0x37f), (0x384, 0x384),
        (0x386, 0x386), (0x388, 0x38a), (0x38c, 0x38c), (0x38e, 0x3a1), (0x3a3, 0x3e1),
        (0x3f0, 0x3ff), (0x1d26, 0x1d2a), (0x1d5d, 0x1d61), (0x1d66, 0x1d6a), (0x1dbf, 0x1dbf),
        (0x1f00, 0x1f15), (0x1f18, 0x1f1d), (0x1f20, 0x1f45), (0x1f48, 0x1f4d), (0x1f50, 0x1f57),
        (0x1f59, 0x1f59), (0x1f5b, 0x1f5b), (0x1f5d, 0x1f5d), (0x1f5f, 0x1f7d), (0x1f80, 0x1fb4),
        (0x1fb6, 0x1fc4), (0x1fc6, 0x1fd3), (0x1fd6, 0x1fdb), (0x1fdd, 0x1fef), (0x1ff2, 0x1ff4),
        (0x1ff6, 0x1ffe), (0x2126, 0x2126), (0xab65, 0xab65), (0x10140, 0x1018e),
        (0x101a0, 0x101a0), (0x1d200, 0x1d245)]⟩,
    ⟨["copt", "coptic", "qaac"], [(0x3e2, 0x3ef), (0x2c80, 0x2cf3), (0x2cf9, 0x2cff)]⟩,
    ⟨["cyrl", "cyrillic"],
      [(0x400, 0x484), (0x487, 0x52f), (0x1c80, 0x1c8a), (0x1d2b, 0x1d2b), (0x1d78, 0x1d78),
        (0x2de0, 0x2dff), (0xa640, 0xa69f), (0xfe2e, 0xfe2f), (0x1e030, 0x1e06d),
        (0x1e08f, 0x1e08f)]⟩,
    ⟨["glag", "glagolitic"],
      [(0x2c00, 0x2c5f), (0x1e000, 0x1e006), (0x1e008, 0x1e018), (0x1e01b, 0x1e021),
        (0x1e023, 0x1e024), (0x1e026, 0x1e02a)]⟩,
    ⟨["armn", "armenian"], [(0x531, 0x556), (0x559, 0x58a), (0x58d, 0x58f), (0xfb13, 0xfb17)]⟩,
    ⟨["geor", "georgian"],
      [(0x10a0, 0x10c5), (0x10c7, 0x10c7), (0x10cd, 0x10cd), (0x10d0, 0x10fa), (0x10fc, 0x10ff),
        (0x1c90, 0x1cba), (0x1cbd, 0x1cbf), (0x2d00, 0x2d25), (0x2d27, 0x2d27), (0x2d2d, 0x2d2d)]⟩,
    ⟨["lina", "lineara"], [(0x10600, 0x10736), (0x10740, 0x10755), (0x10760, 0x10767)]⟩,
    ⟨["linb", "linearb"],
      [(0x10000, 0x1000b), (0x1000d, 0x10026), (0x10028, 0x1003a), (0x1003c, 0x1003d),
        (0x1003f, 0x1004d), (0x10050, 0x1005d), (0x10080, 0x100fa)]⟩,
    ⟨["cpmn", "cyprominoan"], [(0x12f90, 0x12ff2)]⟩,
    ⟨["cprt", "cypriot"],
      [(0x10800, 0x10805), (0x10808, 0x10808), (0x1080a, 0x10835), (0x10837, 0x10838),
        (0x1083c, 0x1083c), (0x1083f, 0x1083f)]⟩, ⟨["lyci", "lycian"], [(0x10280, 0x1029c)]⟩,
    ⟨["cari", "carian"], [(0x102a0, 0x102d0)]⟩,
    ⟨["lydi", "lydian"], [(0x10920, 0x10939), (0x1093f, 0x1093f)]⟩,
    ⟨["ital", "olditalic"], [(0x10300, 0x10323), (0x1032d, 0x1032f)]⟩,
    ⟨["runr", "runic"], [(0x16a0, 0x16ea), (0x16ee, 0x16f8)]⟩,
    ⟨["hung", "oldhungarian"], [(0x10c80, 0x10cb2), (0x10cc0, 0x10cf2), (0x10cfa, 0x10cff)]⟩,
    ⟨["goth", "gothic"], [(0x10330, 0x1034a)]⟩, ⟨["elba", "elbasan"], [(0x10500, 0x10527)]⟩,
    ⟨["aghb", "caucasianalbanian"], [(0x10530, 0x10563), (0x1056f, 0x1056f)]⟩,
    ⟨["vith", "vithkuqi"],
      [(0x10570, 0x1057a), (0x1057c, 0x1058a), (0x1058c, 0x10592), (0x10594, 0x10595),
        (0x10597, 0x105a1), (0x105a3, 0x105b1), (0x105b3, 0x105b9), (0x105bb, 0x105bc)]⟩,
    ⟨["todr", "todhri"], [(0x105c0, 0x105f3)]⟩, ⟨["perm", "oldpermic"], [(0x10350, 0x1037a)]⟩,
    ⟨["ogam", "ogham"], [(0x1680, 0x169c)]⟩, ⟨["shaw", "shavian"], [(0x10450, 0x1047f)]⟩]

end BotOps.Text
