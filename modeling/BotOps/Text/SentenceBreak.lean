import BotOps.Text.Case
import BotOps.Text.Property
import BotOps.Text.Ranges
import BotOps.Text.WordBreak

/-!
# Where sentences end

The property Sentence_Break of Unicode, by which a text is cut into sentences.
-/

namespace BotOps.Text

/-- What belongs to the character before it. -/
def sentenceExtenders : Ranges :=
  .together [clusterExtenders, spacingMarks, [(0x200d, 0x200d)]]

/-- What may end an abbreviation as well as a sentence. -/
def abbreviationEnds : Ranges :=
  [(0x2e, 0x2e), (0x2024, 0x2024), (0xfe52, 0xfe52), (0xff0e, 0xff0e)]

/-- The quotes that may open as well as close. -/
def plainQuotes : Ranges :=
  [(0x22, 0x22), (0x27, 0x27), (0x275b, 0x2760), (0x2e00, 0x2e01), (0x2e06, 0x2e08),
    (0x2e0b, 0x2e0b), (0x1f676, 0x1f678)]

/-- What numbers consist of. -/
def sentenceNumerics : Ranges :=
  .union wordNumerics [(0x66c, 0x66c)]

/-- What a sentence may begin with. -/
def sentenceCapitals : Ranges :=
  .difference (.union uppercase titlecaseLetters) [(0x1c90, 0x1cba), (0x1cbd, 0x1cbf)]

/-- What goes on a sentence. -/
def sentenceSmalls : Ranges :=
  .difference lowercase [(0x345, 0x345), (0x10d0, 0x10fa), (0x10fd, 0x10ff)]

/-- The letters of sentences without a difference in case. -/
def sentenceLetters : Ranges :=
  .union [(0x5f3, 0x5f3)]
    (.difference alphabetics
      (.together [sentenceSmalls, sentenceCapitals, sentenceExtenders, sentenceNumerics]))

/-- The values of the property Sentence_Break. -/
def sentenceBreaks : List Property :=
  [⟨["cr"], [(0xd, 0xd)]⟩, ⟨["lf"], [(0xa, 0xa)]⟩,
    ⟨["sep", "se"], [(0x85, 0x85), (0x2028, 0x2029)]⟩,
    ⟨["sp"],
      [(0x9, 0x9), (0xb, 0xc), (0x20, 0x20), (0xa0, 0xa0), (0x1680, 0x1680), (0x2000, 0x200a),
        (0x202f, 0x202f), (0x205f, 0x205f), (0x3000, 0x3000)]⟩,
    ⟨["extend", "ex"], sentenceExtenders⟩, ⟨["format", "fo"], breakFormats⟩,
    ⟨["aterm", "at"], abbreviationEnds⟩,
    ⟨["sterm", "st"], .difference sentenceTerminals abbreviationEnds⟩,
    ⟨["scontinue", "sc"],
      [(0x2c, 0x2d), (0x3a, 0x3b), (0x37e, 0x37e), (0x55d, 0x55d), (0x60c, 0x60d), (0x7f8, 0x7f8),
        (0x1802, 0x1802), (0x1808, 0x1808), (0x2013, 0x2014), (0x3001, 0x3001), (0xfe10, 0xfe11),
        (0xfe13, 0xfe14), (0xfe31, 0xfe32), (0xfe50, 0xfe51), (0xfe54, 0xfe55), (0xfe58, 0xfe58),
        (0xfe63, 0xfe63), (0xff0c, 0xff0d), (0xff1a, 0xff1b), (0xff64, 0xff64)]⟩,
    ⟨["close", "cl"], .together [openings, closings, initialQuotes, finalQuotes, plainQuotes]⟩,
    ⟨["numeric", "nu"], sentenceNumerics⟩, ⟨["upper", "up"], sentenceCapitals⟩,
    ⟨["lower", "lo"], sentenceSmalls⟩, ⟨["oletter", "le"], sentenceLetters⟩]

end BotOps.Text
