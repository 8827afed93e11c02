import BotOps.Text.Script.Africa
import BotOps.Text.Script.America
import BotOps.Text.Script.CentralAsia
import BotOps.Text.Script.EastAsia
import BotOps.Text.Script.Europe
import BotOps.Text.Script.Extension
import BotOps.Text.Script.MiddleEast
import BotOps.Text.Script.Shared
import BotOps.Text.Script.SouthAsia
import BotOps.Text.Script.SoutheastAsia

/-!
# Scripts

The property Script of Unicode gives a character one script; the property Script_Extensions gives
it all scripts that it is used with.
-/

namespace BotOps.Text

/-- The characters of each script. -/
def scripts : List Property :=
  europeanScripts ++ middleEasternScripts ++ southAsianScripts ++ centralAsianScripts ++
    southeastAsianScripts ++ eastAsianScripts ++ africanScripts ++ americanScripts ++ sharedScripts

/-- The characters of the script with a code. -/
def script (code : String) : Ranges := (Property.find? scripts code).getD []

/-- The characters whose scripts are not just the one that they belong to. -/
def severalScripts : Ranges := .together (scriptUses.map ScriptUse.chars)

/-- The characters that each script is used with. -/
def scriptExtensions : List Property :=
  scripts.map fun script ↦
    let uses := scriptUses.filter fun use ↦ use.scripts.any fun code ↦ code ∈ script.names
    ⟨script.names, .together (script.chars.difference severalScripts :: uses.map ScriptUse.chars)⟩

end BotOps.Text
