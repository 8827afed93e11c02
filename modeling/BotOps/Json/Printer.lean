import BotOps.Json.Value

/-!
# From JSON values to text

The plain way to write a value: nothing stands between the tokens, and a string escapes quotes,
backslashes and controls only.
-/

namespace BotOps.Json

/-- A character as it stands in a string. -/
def escaped (c : Char) : List Char :=
  match c with
  | '"' => ['\\', '"']
  | '\\' => ['\\', '\\']
  | '\x08' => ['\\', 'b']
  | '\x0c' => ['\\', 'f']
  | '\n' => ['\\', 'n']
  | '\r' => ['\\', 'r']
  | '\t' => ['\\', 't']
  | c =>
    if c.toNat < 0x20 then
      ['\\', 'u', '0', '0', Nat.digitChar (c.toNat / 16), Nat.digitChar (c.toNat % 16)]
    else [c]

/-- A text as a string. -/
def quoted (text : String) : List Char := '"' :: text.toList.flatMap escaped ++ ['"']

/-- A string that is no text, because it is half of a surrogate pair. -/
def noText : List Char := "\"\\ud800\"".toList

/-- A string, be it a text or not. -/
def written (content : Option String) : List Char := content.elim noText quoted

mutual

/-- The text that writes a value. -/
def Value.render : Value → List Char
  | .null => "null".toList
  | .bool true => "true".toList
  | .bool false => "false".toList
  | .number spelling => spelling
  | .string content => written content
  | .array items => '[' :: renderItems items
  | .object members => '\x7b' :: renderMembers members

/-- The text that writes the items of an array and its end. -/
def renderItems : List Value → List Char
  | [] => [']']
  | [item] => item.render ++ [']']
  | item :: items => item.render ++ ',' :: renderItems items

/-- The text that writes the members of an object and its end. -/
def renderMembers : List (Option String × Value) → List Char
  | [] => ['\x7d']
  | [member] => renderMember member ++ ['\x7d']
  | member :: members => renderMember member ++ ',' :: renderMembers members

/-- The text that writes a member of an object. -/
def renderMember : Option String × Value → List Char
  | (name, value) => written name ++ ':' :: value.render

end

end BotOps.Json
