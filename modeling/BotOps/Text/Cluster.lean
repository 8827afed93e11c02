import BotOps.Text.Category
import BotOps.Text.Emoji
import BotOps.Text.Property
import BotOps.Text.Ranges
import BotOps.Text.Usage

/-!
# Clusters of characters

The properties of Unicode that say which characters belong together as one.
-/

namespace BotOps.Text

/-- What extends the character before it though it is no mark without a width. -/
def otherExtenders : Ranges :=
  [(0x9be, 0x9be), (0x9d7, 0x9d7), (0xb3e, 0xb3e), (0xb57, 0xb57), (0xbbe, 0xbbe), (0xbd7, 0xbd7),
    (0xcc0, 0xcc0), (0xcc2, 0xcc2), (0xcc7, 0xcc8), (0xcca, 0xccb), (0xcd5, 0xcd6), (0xd3e, 0xd3e),
    (0xd57, 0xd57), (0xdcf, 0xdcf), (0xddf, 0xddf), (0x1715, 0x1715), (0x1734, 0x1734),
    (0x1b35, 0x1b35), (0x1b3b, 0x1b3b), (0x1b3d, 0x1b3d), (0x1b43, 0x1b44), (0x1baa, 0x1baa),
    (0x1bf2, 0x1bf3), (0x200c, 0x200c), (0x302e, 0x302f), (0xa953, 0xa953), (0xa9c0, 0xa9c0),
    (0xff9e, 0xff9f), (0x111c0, 0x111c0), (0x11235, 0x11235), (0x1133e, 0x1133e),
    (0x1134d, 0x1134d), (0x11357, 0x11357), (0x113b8, 0x113b8), (0x113c2, 0x113c2),
    (0x113c5, 0x113c5), (0x113c7, 0x113c9), (0x113cf, 0x113cf), (0x114b0, 0x114b0),
    (0x114bd, 0x114bd), (0x115af, 0x115af), (0x116b6, 0x116b6), (0x11930, 0x11930),
    (0x1193d, 0x1193d), (0x11f41, 0x11f41), (0x16ff0, 0x16ff1), (0x1d165, 0x1d166),
    (0x1d16d, 0x1d172), (0xe0020, 0xe007f)]

/-- What extends the character before it. -/
def clusterExtenders : Ranges :=
  .together [nonspacingMarks, enclosingMarks, otherExtenders]

/-- What may be ignored though it controls no format. -/
def otherIgnorables : Ranges :=
  [(0x34f, 0x34f), (0x115f, 0x1160), (0x17b4, 0x17b5), (0x2065, 0x2065), (0x3164, 0x3164),
    (0xffa0, 0xffa0), (0xfff0, 0xfff8), (0xe0000, 0xe0000), (0xe0002, 0xe001f), (0xe0080, 0xe00ff),
    (0xe01f0, 0xe0fff)]

/-- What is not shown where it is not supported. -/
def ignorables : Ranges :=
  .difference (.together [otherIgnorables, formatCharacters, variationSelectors])
    (.together [prependedMarks, [(0xfff9, 0xfffb), (0x13430, 0x13440)]])

/-- What stands by itself and may be extended. -/
def clusterBases : Ranges :=
  .difference assigned
    (.together
      [controls, formatCharacters, privateUse, lineSeparators, paragraphSeparators,
        clusterExtenders])

/-- The marks with a width that belong to the character before them. -/
def clusterMarks : Ranges :=
  .union [(0xe33, 0xe33), (0xeb3, 0xeb3)] (.difference spacingMarks (.union clusterExtenders
    [(0x102b, 0x102c), (0x1038, 0x1038), (0x1062, 0x1064), (0x1067, 0x106d), (0x1083, 0x1083),
      (0x1087, 0x108c), (0x108f, 0x108f), (0x109a, 0x109c), (0x1a61, 0x1a61), (0x1a63, 0x1a64),
      (0xaa7b, 0xaa7b), (0xaa7d, 0xaa7d), (0x11720, 0x11721)]))

/-- The syllables of Hangul without a final consonant. -/
def openSyllables : Ranges :=
  (List.range 399).map fun i ↦ (0xac00 + 28 * i, 0xac00 + 28 * i)

/-- The properties about clusters and their names. -/
def clusterProperties : List Property :=
  [⟨["graphemebase", "grbase"], clusterBases⟩, ⟨["graphemeextend", "grext"], clusterExtenders⟩,
    ⟨["othergraphemeextend", "ogrext"], otherExtenders⟩,
    ⟨["graphemelink", "grlink"],
      [(0x94d, 0x94d), (0x9cd, 0x9cd), (0xa4d, 0xa4d), (0xacd, 0xacd), (0xb4d, 0xb4d),
        (0xbcd, 0xbcd), (0xc4d, 0xc4d), (0xccd, 0xccd), (0xd3b, 0xd3c), (0xd4d, 0xd4d),
        (0xdca, 0xdca), (0xe3a, 0xe3a), (0xeba, 0xeba), (0xf84, 0xf84), (0x1039, 0x103a),
        (0x1714, 0x1715), (0x1734, 0x1734), (0x17d2, 0x17d2), (0x1a60, 0x1a60), (0x1b44, 0x1b44),
        (0x1baa, 0x1bab), (0x1bf2, 0x1bf3), (0x2d7f, 0x2d7f), (0xa806, 0xa806), (0xa82c, 0xa82c),
        (0xa8c4, 0xa8c4), (0xa953, 0xa953), (0xa9c0, 0xa9c0), (0xaaf6, 0xaaf6), (0xabed, 0xabed),
        (0x10a3f, 0x10a3f), (0x11046, 0x11046), (0x11070, 0x11070), (0x1107f, 0x1107f),
        (0x110b9, 0x110b9), (0x11133, 0x11134), (0x111c0, 0x111c0), (0x11235, 0x11235),
        (0x112ea, 0x112ea), (0x1134d, 0x1134d), (0x113ce, 0x113d0), (0x11442, 0x11442),
        (0x114c2, 0x114c2), (0x115bf, 0x115bf), (0x1163f, 0x1163f), (0x116b6, 0x116b6),
        (0x1172b, 0x1172b), (0x11839, 0x11839), (0x1193d, 0x1193e), (0x119e0, 0x119e0),
        (0x11a34, 0x11a34), (0x11a47, 0x11a47), (0x11a99, 0x11a99), (0x11c3f, 0x11c3f),
        (0x11d44, 0x11d45), (0x11d97, 0x11d97), (0x11f41, 0x11f42), (0x1612f, 0x1612f)]⟩,
    ⟨["defaultignorablecodepoint", "di"], ignorables⟩,
    ⟨["otherdefaultignorablecodepoint", "odi"], otherIgnorables⟩]

/-- The values of the property Grapheme_Cluster_Break. -/
def clusterBreaks : List Property :=
  [⟨["control", "cn"],
      [(0x0, 0x9), (0xb, 0xc), (0xe, 0x1f), (0x7f, 0x9f), (0xad, 0xad), (0x61c, 0x61c),
        (0x180e, 0x180e), (0x200b, 0x200b), (0x200e, 0x200f), (0x2028, 0x202e), (0x2060, 0x206f),
        (0xfeff, 0xfeff), (0xfff0, 0xfffb), (0x13430, 0x1343f), (0x1bca0, 0x1bca3),
        (0x1d173, 0x1d17a), (0xe0000, 0xe001f), (0xe0080, 0xe00ff), (0xe01f0, 0xe0fff)]⟩,
    ⟨["cr"], [(0xd, 0xd)]⟩, ⟨["lf"], [(0xa, 0xa)]⟩,
    ⟨["extend", "ex"], .union clusterExtenders emojiModifiers⟩,
    ⟨["prepend", "pp"],
      [(0x600, 0x605), (0x6dd, 0x6dd), (0x70f, 0x70f), (0x890, 0x891), (0x8e2, 0x8e2),
        (0xd4e, 0xd4e), (0x110bd, 0x110bd), (0x110cd, 0x110cd), (0x111c2, 0x111c3),
        (0x113d1, 0x113d1), (0x1193f, 0x1193f), (0x11941, 0x11941), (0x11a3a, 0x11a3a),
        (0x11a84, 0x11a89), (0x11d46, 0x11d46), (0x11f02, 0x11f02)]⟩,
    ⟨["spacingmark", "sm"], clusterMarks⟩, ⟨["l"], [(0x1100, 0x115f), (0xa960, 0xa97c)]⟩,
    ⟨["v"], [(0x1160, 0x11a7), (0xd7b0, 0xd7c6), (0x16d63, 0x16d63), (0x16d67, 0x16d6a)]⟩,
    ⟨["t"], [(0x11a8, 0x11ff), (0xd7cb, 0xd7fb)]⟩, ⟨["lv"], openSyllables⟩,
    ⟨["lvt"], .difference [(0xac00, 0xd7a3)] openSyllables⟩,
    ⟨["regionalindicator", "ri"], regionalIndicators⟩, ⟨["zwj"], [(0x200d, 0x200d)]⟩]

end BotOps.Text
