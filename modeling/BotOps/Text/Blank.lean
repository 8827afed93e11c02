import BotOps.Text.Ranges

/-!
# Blank characters

The characters with the Unicode property White_Space, and what it means to trim them off a text.
-/

namespace BotOps.Text

/-- The Unicode property White_Space. -/
def blanks : Ranges :=
  [(0x9, 0xd), (0x20, 0x20), (0x85, 0x85), (0xa0, 0xa0), (0x1680, 0x1680), (0x2000, 0x200a),
    (0x2028, 0x2029), (0x202f, 0x202f), (0x205f, 0x205f), (0x3000, 0x3000)]

/-- A blank is a character with the property White_Space. -/
def isBlank (c : Char) : Bool := blanks.contains c

/-- What is left of a text behind its leading blanks. -/
def trimStart (text : List Char) : List Char := text.dropWhile isBlank

/-- A text without the blanks at either end. -/
def trim (text : List Char) : List Char := (trimStart (trimStart text).reverse).reverse

/-- A text of blanks only; the empty text is one. -/
def isBlankText (text : String) : Bool := text.toList.all isBlank

end BotOps.Text
