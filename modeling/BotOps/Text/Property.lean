import BotOps.Text.Ranges

/-!
# Named classes of characters

A standard gives its classes of characters names, often several. Case, blanks, hyphens and
underscores do not matter in them.
-/

namespace BotOps.Text

/-- A class of characters and its names, which are written plainly. -/
structure Property where
  names : List String
  chars : Ranges
deriving DecidableEq, Repr, Inhabited

namespace Property

/-- A name in small letters, without what does not matter: blanks, hyphens, underscores and all
characters beyond ASCII. -/
def plainLetters (name : List Char) : List Char :=
  (name.filter fun c ↦ c.toNat < 0x80 && c != ' ' && c != '_' && c != '-').map Char.toLower

/-- The plain form of a name. A leading `is` does not matter either, but `isc` keeps it, so that it
is not taken for `c`. -/
def plainName (name : List Char) : String :=
  let (isMarked, rest) := match name with
    | a :: b :: rest =>
      if a.toLower = 'i' ∧ b.toLower = 's' then (true, rest) else (false, name)
    | _ => (false, name)
  let plain := plainLetters rest
  String.ofList (if isMarked ∧ plain = ['c'] then 'i' :: 's' :: plain else plain)

/-- The class of a plain name among some properties. -/
def find? (properties : List Property) (name : String) : Option Ranges :=
  (properties.find? fun property ↦ name ∈ property.names).map Property.chars

end Property

end BotOps.Text
