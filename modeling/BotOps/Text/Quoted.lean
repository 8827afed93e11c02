import BotOps.Text.Hidden

/-!
# Quoted texts in messages

A text shown inside a message stands between double quotes. Quotes, backslashes and the common
controls are escaped, and characters that have no shape of their own show their code point.
-/

namespace BotOps.Text

/-- How one character looks between quotes. -/
def quoteChar (c : Char) : List Char :=
  match c with
  | '\x00' => ['\\', '0']
  | '\t' => ['\\', 't']
  | '\r' => ['\\', 'r']
  | '\n' => ['\\', 'n']
  | '"' => ['\\', '"']
  | '\\' => ['\\', '\\']
  | c =>
    if isHidden c then ['\\', 'u', '\x7b'] ++ Nat.toDigits 16 c.toNat ++ ['\x7d'] else [c]

/-- A text between double quotes, every character shown visibly. -/
def quote (text : String) : String :=
  String.ofList ('"' :: text.toList.flatMap quoteChar ++ ['"'])

end BotOps.Text
