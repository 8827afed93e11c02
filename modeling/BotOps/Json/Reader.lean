import BotOps.Json.Lexer

/-!
# From JSON tokens to values

The reader keeps the arrays and objects that are still open and takes one token at a time, so that
values may be nested to any depth.
-/

namespace BotOps.Json

/-- An array or object that is still open, last element first. -/
inductive Frame where
  | array (items : List Value)
  | object (members : List (Option String × Value))
  /-- An object whose next member is named but has no value yet. -/
  | member (members : List (Option String × Value)) (name : Option String)
deriving Inhabited, Repr

/-- What may come next. -/
inductive Expected where
  /-- A value. -/
  | value
  /-- The first value of an array, or its end. -/
  | firstItem
  /-- The first name of an object, or its end. -/
  | firstName
  /-- A further name of an object. -/
  | name
  /-- The colon behind a name. -/
  | colon
  /-- A comma, or the end of the array or object. -/
  | separator
  /-- Nothing: the text is this value. -/
  | nothing (value : Value)
deriving Inhabited, Repr

/-- A reader in the middle of a text. -/
structure Reader where
  frames : List Frame
  expected : Expected
deriving Inhabited, Repr

namespace Reader

/-- Adds a complete value to what is open around it. -/
def complete (frames : List Frame) (value : Value) : Reader :=
  match frames with
  | .array items :: frames => ⟨.array (value :: items) :: frames, .separator⟩
  | .member members name :: frames => ⟨.object ((name, value) :: members) :: frames, .separator⟩
  | frames => ⟨frames, .nothing value⟩

/-- Takes the token that begins a value. -/
def beginValue (frames : List Frame) (token : Token) : Option Reader :=
  match token with
  | .null => some (complete frames .null)
  | .bool b => some (complete frames (.bool b))
  | .number spelling => some (complete frames (.number spelling))
  | .string content => some (complete frames (.string content))
  | .openArray => some ⟨.array [] :: frames, .firstItem⟩
  | .openObject => some ⟨.object [] :: frames, .firstName⟩
  | _ => none

/-- Takes the token that names a member. -/
def beginMember (frames : List Frame) (token : Token) : Option Reader :=
  match frames, token with
  | .object members :: frames, .string name => some ⟨.member members name :: frames, .colon⟩
  | _, _ => none

/-- Takes the token that ends an array or object. -/
def close (frames : List Frame) (token : Token) : Option Reader :=
  match frames, token with
  | .array items :: frames, .closeArray => some (complete frames (.array items.reverse))
  | .object members :: frames, .closeObject => some (complete frames (.object members.reverse))
  | _, _ => none

/-- Takes one token. -/
def step (reader : Reader) (token : Token) : Option Reader :=
  match reader.expected with
  | .value => beginValue reader.frames token
  | .firstItem =>
    if token = .closeArray then close reader.frames token else beginValue reader.frames token
  | .firstName =>
    if token = .closeObject then close reader.frames token else beginMember reader.frames token
  | .name => beginMember reader.frames token
  | .colon => if token = .colon then some ⟨reader.frames, .value⟩ else none
  | .separator =>
    if token = .comma then
      match reader.frames with
      | .array _ :: _ => some ⟨reader.frames, .value⟩
      | _ => some ⟨reader.frames, .name⟩
    else close reader.frames token
  | .nothing _ => none

/-- A reader at the start of a text. -/
def start : Reader := ⟨[], .value⟩

/-- The value read, once the text is over. -/
def result (reader : Reader) : Option Value :=
  match reader.expected with
  | .nothing value => some value
  | _ => none

end Reader

/-- The value that tokens write. -/
def Value.ofTokens? (tokens : List Token) : Option Value :=
  tokens.foldlM Reader.step Reader.start >>= Reader.result

/-- The value that a text writes. -/
def Value.parse? (text : List Char) : Option Value := Token.ofText? text >>= Value.ofTokens?

end BotOps.Json
