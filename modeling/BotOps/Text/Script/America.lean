import BotOps.Text.Property
import BotOps.Text.Ranges

/-!
# Scripts of America

The scripts of America. Each has a code and names.
-/

namespace BotOps.Text

/-- The characters of each script, by its names. -/
def americanScripts : List Property :=
  [⟨["cher", "cherokee"], [(0x13a0, 0x13f5), (0x13f8, 0x13fd), (0xab70, 0xabbf)]⟩,
    ⟨["cans", "canadianaboriginal"], [(0x1400, 0x167f), (0x18b0, 0x18f5), (0x11ab0, 0x11abf)]⟩,
    ⟨["osge", "osage"], [(0x104b0, 0x104d3), (0x104d8, 0x104fb)]⟩,
    ⟨["dsrt", "deseret"], [(0x10400, 0x1044f)]⟩]

end BotOps.Text
