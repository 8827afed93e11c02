import BotOps.Text.Ranges

/-!
# Classes of ASCII

The classes of characters that a pattern can name by a word, and those that its shorthands stand
for where only ASCII counts.
-/

namespace BotOps.Pattern.Class

open BotOps.Text

/-- The digits of ASCII. -/
def digit : Ranges := [(0x30, 0x39)]

/-- The blanks of ASCII. -/
def blank : Ranges := [(0x9, 0xd), (0x20, 0x20)]

/-- The letters, digits and the underscore of ASCII. -/
def word : Ranges := [(0x30, 0x39), (0x41, 0x5a), (0x5f, 0x5f), (0x61, 0x7a)]

/-- The classes of ASCII that have a name. -/
def named : List (String × Ranges) :=
  [("alnum", [(0x30, 0x39), (0x41, 0x5a), (0x61, 0x7a)]),
    ("alpha", [(0x41, 0x5a), (0x61, 0x7a)]), ("ascii", [(0, 0x7f)]),
    ("blank", [(0x9, 0x9), (0x20, 0x20)]), ("cntrl", [(0, 0x1f), (0x7f, 0x7f)]),
    ("digit", digit), ("graph", [(0x21, 0x7e)]), ("lower", [(0x61, 0x7a)]),
    ("print", [(0x20, 0x7e)]),
    ("punct", [(0x21, 0x2f), (0x3a, 0x40), (0x5b, 0x60), (0x7b, 0x7e)]),
    ("space", blank), ("upper", [(0x41, 0x5a)]), ("word", word),
    ("xdigit", [(0x30, 0x39), (0x41, 0x46), (0x61, 0x66)])]

end BotOps.Pattern.Class
