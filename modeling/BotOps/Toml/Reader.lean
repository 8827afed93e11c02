import BotOps.Toml.Lexical
import BotOps.Toml.Moment
import BotOps.Toml.Number
import BotOps.Toml.Table
import BotOps.Toml.Text

/-!
# Reading TOML values

Arrays may spread over lines, tables written as values may not. Values are nested to a limited
depth, and so are the parts of a dotted key.
-/

namespace BotOps.Toml

/-- The depth to which values must not be nested and the number of parts that a key must not
have. -/
def depthLimit : Nat := 80

/-- Reads the parts of a dotted key, as far as `fuel` parts reach. -/
def keyParts? : Nat → List Char → Option (List String × List Char)
  | 0, _ => none
  | fuel + 1, text => do
    let (part, rest) ← simpleKey? (skipBlanks text)
    match skipBlanks rest with
    | '.' :: rest => do
      let (parts, rest) ← keyParts? fuel rest
      some (part :: parts, rest)
    | rest => some ([part], rest)

/-- Reads a dotted key and the blanks around it: the keys that lead to a table, and the key in
it. -/
def key? (text : List Char) : Option ((List String × String) × List Char) := do
  let (parts, rest) ← keyParts? (depthLimit - 1) text
  let last ← parts.getLast?
  some ((parts.dropLast, last), rest)

/-- Reads a date or a number. -/
def scalar? (text : List Char) : Option (Value × List Char) :=
  if beginsMoment text then (moment? text).map fun rest ↦ (.moment, rest)
  else
    match number? text with
    | some (.integer n, rest) => some (.integer n, rest)
    | some (.float, rest) => some (.float, rest)
    | none => none

mutual

/-- Reads a value with `room` levels of nesting left, as far as `fuel` reaches. -/
def valueWithin (room : Nat) : Nat → List Char → Option (Value × List Char)
  | 0, _ => none
  | fuel + 1, text =>
    match text with
    | 't' :: 'r' :: 'u' :: 'e' :: rest => some (.boolean true, rest)
    | 'f' :: 'a' :: 'l' :: 's' :: 'e' :: rest => some (.boolean false, rest)
    | '[' :: rest =>
      if room = 0 then none
      else (itemsWithin (room - 1) fuel [] rest).map fun read ↦ (.array read.1, read.2)
    | '\x7b' :: rest =>
      if room = 0 then none
      else
        match skipBlanks rest with
        | '\x7d' :: rest => some (.table .inline [], rest)
        | rest => do
          let (assignments, rest) ← assignmentsWithin (room - 1) fuel [] rest
          let entries ← Entries.fill? [] assignments
          some (.table .inline entries, rest)
    | c :: rest =>
      if c = '"' ∨ c = '\'' then (string? (c :: rest)).map fun read ↦ (.string read.1, read.2)
      else scalar? (c :: rest)
    | [] => none

/-- Reads the items of an array up to its closing bracket. The items so far have the last one
first. -/
def itemsWithin (room : Nat) : Nat → List Value → List Char → Option (List Value × List Char)
  | 0, _, _ => none
  | fuel + 1, items, text =>
    match skipLines false text with
    | ']' :: rest => some (items.reverse, rest)
    | text => do
      let (item, rest) ← valueWithin room fuel text
      match skipLines false rest with
      | ',' :: rest => itemsWithin room fuel (item :: items) rest
      | ']' :: rest => some ((item :: items).reverse, rest)
      | _ => none

/-- Reads the assignments of a table written as a value up to its closing brace. The assignments so
far have the last one first. -/
def assignmentsWithin (room : Nat) :
    Nat → List Assignment → List Char → Option (List Assignment × List Char)
  | 0, _, _ => none
  | fuel + 1, assignments, text => do
    let (key, rest) ← key? text
    let rest ← expect? '=' rest
    let (value, rest) ← valueWithin room fuel (skipBlanks rest)
    match skipBlanks rest with
    | ',' :: rest => assignmentsWithin room fuel ((key, value) :: assignments) rest
    | '\x7d' :: rest => some (((key, value) :: assignments).reverse, rest)
    | _ => none

end

/-- Reads a value. Every second step takes at least one character. -/
def value? (text : List Char) : Option (Value × List Char) :=
  valueWithin (depthLimit - 1) (2 * text.length + 2) text

end BotOps.Toml
