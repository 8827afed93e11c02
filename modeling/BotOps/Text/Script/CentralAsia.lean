import BotOps.Text.Property
import BotOps.Text.Ranges

/-!
# Scripts of Central Asia

The scripts of Central Asia, and further ones of South Asia. Each has a code and names.
-/

namespace BotOps.Text

/-- The characters of each script, by its names. -/
def centralAsianScripts : List Property :=
  [⟨["thaa", "thaana"], [(0x780, 0x7b1)]⟩,
    ⟨["sinh", "sinhala"],
      [(0xd81, 0xd83), (0xd85, 0xd96), (0xd9a, 0xdb1), (0xdb3, 0xdbb), (0xdbd, 0xdbd),
        (0xdc0, 0xdc6), (0xdca, 0xdca), (0xdcf, 0xdd4), (0xdd6, 0xdd6), (0xdd8, 0xddf),
        (0xde6, 0xdef), (0xdf2, 0xdf4), (0x111e1, 0x111f4)]⟩,
    ⟨["newa"], [(0x11400, 0x1145b), (0x1145d, 0x11461)]⟩,
    ⟨["tibt", "tibetan"],
      [(0xf00, 0xf47), (0xf49, 0xf6c), (0xf71, 0xf97), (0xf99, 0xfbc), (0xfbe, 0xfcc),
        (0xfce, 0xfd4), (0xfd9, 0xfda)]⟩,
    ⟨["mong", "mongolian"],
      [(0x1800, 0x1801), (0x1804, 0x1804), (0x1806, 0x1819), (0x1820, 0x1878), (0x1880, 0x18aa),
        (0x11660, 0x1166c)]⟩,
    ⟨["limb", "limbu"],
      [(0x1900, 0x191e), (0x1920, 0x192b), (0x1930, 0x193b), (0x1940, 0x1940), (0x1944, 0x194f)]⟩,
    ⟨["mtei", "meeteimayek"], [(0xaae0, 0xaaf6), (0xabc0, 0xabed), (0xabf0, 0xabf9)]⟩,
    ⟨["mroo", "mro"], [(0x16a40, 0x16a5e), (0x16a60, 0x16a69), (0x16a6e, 0x16a6f)]⟩,
    ⟨["wara", "warangciti"], [(0x118a0, 0x118f2), (0x118ff, 0x118ff)]⟩,
    ⟨["olck", "olchiki"], [(0x1c50, 0x1c7f)]⟩,
    ⟨["cakm", "chakma"], [(0x11100, 0x11134), (0x11136, 0x11147)]⟩,
    ⟨["lepc", "lepcha"], [(0x1c00, 0x1c37), (0x1c3b, 0x1c49), (0x1c4d, 0x1c4f)]⟩,
    ⟨["saur", "saurashtra"], [(0xa880, 0xa8c5), (0xa8ce, 0xa8d9)]⟩,
    ⟨["gonm", "masaramgondi"],
      [(0x11d00, 0x11d06), (0x11d08, 0x11d09), (0x11d0b, 0x11d36), (0x11d3a, 0x11d3a),
        (0x11d3c, 0x11d3d), (0x11d3f, 0x11d47), (0x11d50, 0x11d59)]⟩,
    ⟨["gong", "gunjalagondi"],
      [(0x11d60, 0x11d65), (0x11d67, 0x11d68), (0x11d6a, 0x11d8e), (0x11d90, 0x11d91),
        (0x11d93, 0x11d98), (0x11da0, 0x11da9)]⟩,
    ⟨["wcho", "wancho"], [(0x1e2c0, 0x1e2f9), (0x1e2ff, 0x1e2ff)]⟩,
    ⟨["toto"], [(0x1e290, 0x1e2ae)]⟩,
    ⟨["tnsa", "tangsa"], [(0x16a70, 0x16abe), (0x16ac0, 0x16ac9)]⟩,
    ⟨["gukh", "gurungkhema"], [(0x16100, 0x16139)]⟩, ⟨["krai", "kiratrai"], [(0x16d40, 0x16d79)]⟩,
    ⟨["sunu", "sunuwar"], [(0x11bc0, 0x11be1), (0x11bf0, 0x11bf9)]⟩,
    ⟨["nagm", "nagmundari"], [(0x1e4d0, 0x1e4f9)]⟩,
    ⟨["onao", "olonal"], [(0x1e5d0, 0x1e5fa), (0x1e5ff, 0x1e5ff)]⟩,
    ⟨["brah", "brahmi"], [(0x11000, 0x1104d), (0x11052, 0x11075), (0x1107f, 0x1107f)]⟩,
    ⟨["khar", "kharoshthi"],
      [(0x10a00, 0x10a03), (0x10a05, 0x10a06), (0x10a0c, 0x10a13), (0x10a15, 0x10a17),
        (0x10a19, 0x10a35), (0x10a38, 0x10a3a), (0x10a3f, 0x10a48), (0x10a50, 0x10a58)]⟩,
    ⟨["bhks", "bhaiksuki"],
      [(0x11c00, 0x11c08), (0x11c0a, 0x11c36), (0x11c38, 0x11c45), (0x11c50, 0x11c6c)]⟩,
    ⟨["phag", "phagspa"], [(0xa840, 0xa877)]⟩,
    ⟨["marc", "marchen"], [(0x11c70, 0x11c8f), (0x11c92, 0x11ca7), (0x11ca9, 0x11cb6)]⟩,
    ⟨["zanb", "zanabazarsquare"], [(0x11a00, 0x11a47)]⟩,
    ⟨["soyo", "soyombo"], [(0x11a50, 0x11aa2)]⟩, ⟨["ougr", "olduyghur"], [(0x10f70, 0x10f89)]⟩,
    ⟨["sogd", "sogdian"], [(0x10f30, 0x10f59)]⟩, ⟨["sogo", "oldsogdian"], [(0x10f00, 0x10f27)]⟩,
    ⟨["orkh", "oldturkic"], [(0x10c00, 0x10c48)]⟩]

end BotOps.Text
