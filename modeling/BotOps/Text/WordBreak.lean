import BotOps.Text.Cluster
import BotOps.Text.Ideograph
import BotOps.Text.Property
import BotOps.Text.Ranges
import BotOps.Text.Script

/-!
# Where words end

The property Word_Break of Unicode, by which a text is cut into words.
-/

namespace BotOps.Text

/-- The characters that control a format and do not end a word or sentence. -/
def breakFormats : Ranges :=
  .difference formatCharacters
    [(0x600, 0x605), (0x6dd, 0x6dd), (0x890, 0x891), (0x8e2, 0x8e2), (0x200c, 0x200d),
      (0x110bd, 0x110bd), (0x110cd, 0x110cd), (0xe0020, 0xe007f)]

/-- What numbers consist of. -/
def wordNumerics : Ranges :=
  .union decimalDigits
    [(0x600, 0x605), (0x66b, 0x66b), (0x6dd, 0x6dd), (0x890, 0x891), (0x8e2, 0x8e2),
      (0x110bd, 0x110bd), (0x110cd, 0x110cd)]

/-- What connects the parts of a word. -/
def wordConnectors : Ranges :=
  .union connectors [(0x202f, 0x202f)]

/-- What words in Katakana consist of. -/
def katakanaLetters : Ranges :=
  .union (script "kana")
    [(0x3031, 0x3035), (0x309b, 0x309c), (0x30a0, 0x30a0), (0x30fc, 0x30fc), (0xff70, 0xff70)]

/-- The letters of Hebrew. -/
def hebrewLetters : Ranges :=
  .intersection (script "hebr") otherLetters

/-- The letters of scripts that do not leave spaces between words. -/
def unspacedLetters : Ranges :=
  [(0xe01, 0xe30), (0xe32, 0xe33), (0xe40, 0xe46), (0xe81, 0xe82), (0xe84, 0xe84), (0xe86, 0xe8a),
    (0xe8c, 0xea3), (0xea5, 0xea5), (0xea7, 0xeb0), (0xeb2, 0xeb3), (0xebd, 0xebd), (0xec0, 0xec4),
    (0xec6, 0xec6), (0xedc, 0xedf), (0x1000, 0x102a), (0x103f, 0x103f), (0x1050, 0x1055),
    (0x105a, 0x105d), (0x1061, 0x1061), (0x1065, 0x1066), (0x106e, 0x1070), (0x1075, 0x1081),
    (0x108e, 0x108e), (0x1780, 0x17b3), (0x17d7, 0x17d7), (0x17dc, 0x17dc), (0x1950, 0x196d),
    (0x1970, 0x1974), (0x1980, 0x19ab), (0x19b0, 0x19c9), (0x1a20, 0x1a54), (0x1aa7, 0x1aa7),
    (0xa9e0, 0xa9e4), (0xa9e6, 0xa9ef), (0xa9fa, 0xa9fe), (0xaa60, 0xaa76), (0xaa7a, 0xaa7a),
    (0xaa7e, 0xaaaf), (0xaab1, 0xaab1), (0xaab5, 0xaab6), (0xaab9, 0xaabd), (0xaac0, 0xaac0),
    (0xaac2, 0xaac2), (0xaadb, 0xaadd), (0x11700, 0x1171a), (0x11740, 0x11746)]

/-- What belongs to a word like a letter though it is not alphabetic. -/
def letterlike : Ranges :=
  [(0x2c2, 0x2c5), (0x2d2, 0x2d7), (0x2de, 0x2df), (0x2e5, 0x2eb), (0x2ed, 0x2ed), (0x2ef, 0x2ff),
    (0x55a, 0x55c), (0x55e, 0x55e), (0x58a, 0x58a), (0x5f3, 0x5f3), (0x70f, 0x70f),
    (0xa708, 0xa716), (0xa720, 0xa721), (0xa789, 0xa78a), (0xab5b, 0xab5b)]

/-- What other words consist of. -/
def wordLetters : Ranges :=
  .union letterlike
    (.difference alphabetics
      (.together
        [ideographs, script "hira", katakanaLetters, hebrewLetters, clusterExtenders, spacingMarks,
          wordNumerics, wordConnectors, unspacedLetters]))

/-- The values of the property Word_Break. -/
def wordBreaks : List Property :=
  [⟨["cr"], [(0xd, 0xd)]⟩, ⟨["lf"], [(0xa, 0xa)]⟩,
    ⟨["newline", "nl"], [(0xb, 0xc), (0x85, 0x85), (0x2028, 0x2029)]⟩,
    ⟨["zwj"], [(0x200d, 0x200d)]⟩,
    ⟨["wsegspace"],
      [(0x20, 0x20), (0x1680, 0x1680), (0x2000, 0x2006), (0x2008, 0x200a), (0x205f, 0x205f),
        (0x3000, 0x3000)]⟩, ⟨["singlequote", "sq"], [(0x27, 0x27)]⟩,
    ⟨["doublequote", "dq"], [(0x22, 0x22)]⟩,
    ⟨["midnumlet", "mb"],
      [(0x2e, 0x2e), (0x2018, 0x2019), (0x2024, 0x2024), (0xfe52, 0xfe52), (0xff07, 0xff07),
        (0xff0e, 0xff0e)]⟩,
    ⟨["midletter", "ml"],
      [(0x3a, 0x3a), (0xb7, 0xb7), (0x387, 0x387), (0x55f, 0x55f), (0x5f4, 0x5f4),
        (0x2027, 0x2027), (0xfe13, 0xfe13), (0xfe55, 0xfe55), (0xff1a, 0xff1a)]⟩,
    ⟨["midnum", "mn"],
      [(0x2c, 0x2c), (0x3b, 0x3b), (0x37e, 0x37e), (0x589, 0x589), (0x60c, 0x60d), (0x66c, 0x66c),
        (0x7f8, 0x7f8), (0x2044, 0x2044), (0xfe10, 0xfe10), (0xfe14, 0xfe14), (0xfe50, 0xfe50),
        (0xfe54, 0xfe54), (0xff0c, 0xff0c), (0xff1b, 0xff1b)]⟩, ⟨["numeric", "nu"], wordNumerics⟩,
    ⟨["extendnumlet", "ex"], wordConnectors⟩,
    ⟨["extend"], .together [clusterExtenders, spacingMarks, emojiModifiers]⟩,
    ⟨["format", "fo"], .difference breakFormats [(0x70f, 0x70f), (0x200b, 0x200b)]⟩,
    ⟨["katakana", "ka"], katakanaLetters⟩, ⟨["hebrewletter", "hl"], hebrewLetters⟩,
    ⟨["aletter", "le"], wordLetters⟩, ⟨["regionalindicator", "ri"], regionalIndicators⟩]

end BotOps.Text
