/-!
# JSON values

Values as a text writes them: numbers keep their spelling, objects keep all their members in
order, and a string that is no text, because it holds half of a surrogate pair, is still a value.
-/

namespace BotOps.Json

/-- A JSON value. -/
inductive Value where
  | null
  | bool (value : Bool)
  /-- A number as it is spelled. -/
  | number (spelling : List Char)
  /-- A string, if its content is a text. -/
  | string (content : Option String)
  | array (items : List Value)
  /-- An object; a name may occur more than once, and it may be no text. -/
  | object (members : List (Option String × Value))
deriving Inhabited, Repr

/-- The lexical elements of JSON. -/
inductive Token where
  | null
  | bool (value : Bool)
  | number (spelling : List Char)
  | string (content : Option String)
  | openArray
  | closeArray
  | openObject
  | closeObject
  | colon
  | comma
deriving DecidableEq, Repr

end BotOps.Json
