import BotOps.Text.Property
import BotOps.Text.Ranges

/-!
# Scripts of Southeast Asia

The scripts of Southeast Asia, Indonesia and the Philippines. Each has a code and names.
-/

namespace BotOps.Text

/-- The characters of each script, by its names. -/
def southeastAsianScripts : List Property :=
  [⟨["thai"], [(0xe01, 0xe3a), (0xe40, 0xe5b)]⟩,
    ⟨["laoo", "lao"],
      [(0xe81, 0xe82), (0xe84, 0xe84), (0xe86, 0xe8a), (0xe8c, 0xea3), (0xea5, 0xea5),
        (0xea7, 0xebd), (0xec0, 0xec4), (0xec6, 0xec6), (0xec8, 0xece), (0xed0, 0xed9),
        (0xedc, 0xedf)]⟩,
    ⟨["mymr", "myanmar"],
      [(0x1000, 0x109f), (0xa9e0, 0xa9fe), (0xaa60, 0xaa7f), (0x116d0, 0x116e3)]⟩,
    ⟨["khmr", "khmer"], [(0x1780, 0x17dd), (0x17e0, 0x17e9), (0x17f0, 0x17f9), (0x19e0, 0x19ff)]⟩,
    ⟨["tale", "taile"], [(0x1950, 0x196d), (0x1970, 0x1974)]⟩,
    ⟨["talu", "newtailue"],
      [(0x1980, 0x19ab), (0x19b0, 0x19c9), (0x19d0, 0x19da), (0x19de, 0x19df)]⟩,
    ⟨["lana", "taitham"],
      [(0x1a20, 0x1a5e), (0x1a60, 0x1a7c), (0x1a7f, 0x1a89), (0x1a90, 0x1a99), (0x1aa0, 0x1aad)]⟩,
    ⟨["tavt", "taiviet"], [(0xaa80, 0xaac2), (0xaadb, 0xaadf)]⟩,
    ⟨["kali", "kayahli"], [(0xa900, 0xa92d), (0xa92f, 0xa92f)]⟩,
    ⟨["cham"], [(0xaa00, 0xaa36), (0xaa40, 0xaa4d), (0xaa50, 0xaa59), (0xaa5c, 0xaa5f)]⟩,
    ⟨["hmng", "pahawhhmong"],
      [(0x16b00, 0x16b45), (0x16b50, 0x16b59), (0x16b5b, 0x16b61), (0x16b63, 0x16b77),
        (0x16b7d, 0x16b8f)]⟩,
    ⟨["hmnp", "nyiakengpuachuehmong"],
      [(0x1e100, 0x1e12c), (0x1e130, 0x1e13d), (0x1e140, 0x1e149), (0x1e14e, 0x1e14f)]⟩,
    ⟨["pauc", "paucinhau"], [(0x11ac0, 0x11af8)]⟩,
    ⟨["rohg", "hanifirohingya"], [(0x10d00, 0x10d27), (0x10d30, 0x10d39)]⟩,
    ⟨["tglg", "tagalog"], [(0x1700, 0x1715), (0x171f, 0x171f)]⟩,
    ⟨["hano", "hanunoo"], [(0x1720, 0x1734)]⟩, ⟨["buhd", "buhid"], [(0x1740, 0x1753)]⟩,
    ⟨["tagb", "tagbanwa"], [(0x1760, 0x176c), (0x176e, 0x1770), (0x1772, 0x1773)]⟩,
    ⟨["bugi", "buginese"], [(0x1a00, 0x1a1b), (0x1a1e, 0x1a1f)]⟩,
    ⟨["bali", "balinese"], [(0x1b00, 0x1b4c), (0x1b4e, 0x1b7f)]⟩,
    ⟨["java", "javanese"], [(0xa980, 0xa9cd), (0xa9d0, 0xa9d9), (0xa9de, 0xa9df)]⟩,
    ⟨["rjng", "rejang"], [(0xa930, 0xa953), (0xa95f, 0xa95f)]⟩,
    ⟨["batk", "batak"], [(0x1bc0, 0x1bf3), (0x1bfc, 0x1bff)]⟩,
    ⟨["sund", "sundanese"], [(0x1b80, 0x1bbf), (0x1cc0, 0x1cc7)]⟩,
    ⟨["maka", "makasar"], [(0x11ee0, 0x11ef8)]⟩,
    ⟨["kawi"], [(0x11f00, 0x11f10), (0x11f12, 0x11f3a), (0x11f3e, 0x11f5a)]⟩]

end BotOps.Text
