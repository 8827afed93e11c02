/-!
# TOML values

A document is a table. Of floats and dates only their kind is known, because nothing depends on
more. A table remembers how it came about, because that decides who may still add to it.
-/

namespace BotOps.Toml

/-- How a table came about. -/
inductive Origin where
  /-- It has a header of its own. -/
  | header
  /-- The header of a table inside it implies it. -/
  | implied
  /-- A dotted key implies it. -/
  | dotted
  /-- It is written as a value. -/
  | inline
deriving DecidableEq, Repr, Inhabited

/-- A TOML value. -/
inductive Value where
  | string (text : String)
  | integer (value : Int)
  | float
  | boolean (value : Bool)
  | moment
  | array (items : List Value)
  | table (origin : Origin) (entries : List (String × Value))
  /-- Tables whose headers ask for one more each; the last one can still grow. -/
  | tables (elements : List (List (String × Value)))
deriving Inhabited, Repr

/-- The keys and values of a table in the order in which they were written. -/
abbrev Entries := List (String × Value)

end BotOps.Toml
