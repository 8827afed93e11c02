import BotOps.Text.Control
import BotOps.Text.Letter
import BotOps.Text.Mark
import BotOps.Text.Number
import BotOps.Text.Property
import BotOps.Text.Sign

/-!
# General categories

Unicode gives every character one general category; a group of categories is named by the first
letter of their short names. The surrogates, which are no characters, have a category as well, but
no class.
-/

namespace BotOps.Text

/-- The characters that the standard has not assigned, general category Cn. -/
def unassigned : Ranges :=
  .difference [(0, 0xd7ff), (0xe000, 0x10ffff)]
    (.together [letters, marks, numbers, punctuation, symbols, separators, controls,
      formatCharacters, privateUse])

/-- The characters that the standard has assigned. -/
def assigned : Ranges := .complement unassigned

/-- The general categories. -/
def categories : List Property :=
  [⟨["lu", "uppercaseletter"], uppercaseLetters⟩, ⟨["ll", "lowercaseletter"], lowercaseLetters⟩,
    ⟨["lt", "titlecaseletter"], titlecaseLetters⟩, ⟨["lm", "modifierletter"], modifierLetters⟩,
    ⟨["lo", "otherletter"], otherLetters⟩, ⟨["mn", "nonspacingmark"], nonspacingMarks⟩,
    ⟨["mc", "spacingmark"], spacingMarks⟩, ⟨["me", "enclosingmark"], enclosingMarks⟩,
    ⟨["nd", "decimalnumber", "digit"], decimalDigits⟩, ⟨["nl", "letternumber"], letterNumbers⟩,
    ⟨["no", "othernumber"], otherNumbers⟩, ⟨["pc", "connectorpunctuation"], connectors⟩,
    ⟨["pd", "dashpunctuation"], dashes⟩, ⟨["ps", "openpunctuation"], openings⟩,
    ⟨["pe", "closepunctuation"], closings⟩, ⟨["pi", "initialpunctuation"], initialQuotes⟩,
    ⟨["pf", "finalpunctuation"], finalQuotes⟩, ⟨["po", "otherpunctuation"], otherPunctuation⟩,
    ⟨["sm", "mathsymbol"], mathSymbols⟩, ⟨["sc", "currencysymbol"], currencySymbols⟩,
    ⟨["sk", "modifiersymbol"], modifierSymbols⟩, ⟨["so", "othersymbol"], otherSymbols⟩,
    ⟨["zs", "spaceseparator"], spaceSeparators⟩, ⟨["zl", "lineseparator"], lineSeparators⟩,
    ⟨["zp", "paragraphseparator"], paragraphSeparators⟩, ⟨["cc", "control", "cntrl"], controls⟩,
    ⟨["cf", "format"], formatCharacters⟩, ⟨["co", "privateuse"], privateUse⟩,
    ⟨["cn", "unassigned"], unassigned⟩]

/-- The groups of general categories. The surrogates count as one of the others, which closes the
gap that they leave. -/
def categoryGroups : List Property :=
  [⟨["l", "letter"], letters⟩,
    ⟨["lc", "casedletter"], .together [uppercaseLetters, lowercaseLetters, titlecaseLetters]⟩,
    ⟨["m", "mark", "combiningmark"], marks⟩, ⟨["n", "number"], numbers⟩,
    ⟨["p", "punctuation", "punct"], punctuation⟩, ⟨["s", "symbol"], symbols⟩,
    ⟨["z", "separator"], separators⟩,
    ⟨["c", "other"],
      .together [controls, formatCharacters, privateUse, unassigned, [(0xd800, 0xdfff)]]⟩,
    ⟨["any"], .everything⟩, ⟨["ascii"], [(0, 0x7f)]⟩, ⟨["assigned"], assigned⟩]

end BotOps.Text
