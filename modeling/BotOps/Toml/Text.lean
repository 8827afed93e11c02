import BotOps.Text.Hex

/-!
# Strings and keys of TOML

A string is written between double quotes, where a backslash escapes, or between single quotes,
where it does not. Three quotes enclose a string of several lines.
-/

namespace BotOps.Toml

open BotOps.Text

/-- A character that a string may hold on one line, quotes and backslashes aside. -/
def isPlain (c : Char) : Bool := c = '\t' || (0x20 ≤ c.toNat && c.toNat != 0x7f)

/-- The character that a short escape stands for. -/
def shortEscape? (c : Char) : Option Char :=
  match c with
  | 'b' => some '\x08'
  | 't' => some '\t'
  | 'n' => some '\n'
  | 'f' => some '\x0c'
  | 'r' => some '\r'
  | '"' => some '"'
  | '\\' => some '\\'
  | _ => none

/-- Reads the character of an escape behind its backslash. -/
def escape? (text : List Char) : Option (Char × List Char) :=
  match text with
  | 'u' :: rest => code? 4 rest
  | 'U' :: rest => code? 8 rest
  | c :: rest => (shortEscape? c).map fun c ↦ (c, rest)
  | [] => none
where
  /-- Reads a code point of so many digits. -/
  code? (width : Nat) (text : List Char) : Option (Char × List Char) := do
    let digits := text.take width
    if digits.length = width then
      let point ← hexValue? digits
      let c ← scalar? point
      some (c, text.drop width)
    else none

/-- Reads a string up to its closing double quote, in at most as many steps as `fuel` has
characters. The content so far has its last character first. -/
def basicWithin : List Char → List Char → List Char → Option (String × List Char)
  | [], _, _ => none
  | _, _, [] => none
  | _ :: fuel, read, c :: rest =>
    if c = '"' then some (String.ofList read.reverse, rest)
    else if c = '\\' then
      match escape? rest with
      | some (c, rest) => basicWithin fuel (c :: read) rest
      | none => none
    else if isPlain c then basicWithin fuel (c :: read) rest
    else none

/-- Reads a string behind its opening double quote. Each step takes a character of the text. -/
def basic? (text : List Char) : Option (String × List Char) := basicWithin text [] text

/-- Reads a string behind its opening single quote. -/
def literal? (text : List Char) : Option (String × List Char) :=
  let content := text.takeWhile fun c ↦ isPlain c && c != '\''
  match text.drop content.length with
  | '\'' :: rest => some (String.ofList content, rest)
  | _ => none

/-- What is left of a text behind a line end, if there is one. -/
def dropNewline (text : List Char) : List Char :=
  match text with
  | '\n' :: rest => rest
  | '\r' :: '\n' :: rest => rest
  | _ => text

/-- What is left behind a backslash that ends its line: the blanks up to the line end, and all
blanks and line ends behind it. -/
def joinLines? (text : List Char) : Option (List Char) :=
  match text.dropWhile fun c ↦ c = ' ' || c = '\t' with
  | '\n' :: rest => some (skipAll rest)
  | '\r' :: '\n' :: rest => some (skipAll rest)
  | _ => none
where
  /-- Drops blanks and line ends. -/
  skipAll : List Char → List Char
    | '\r' :: '\n' :: rest => skipAll rest
    | c :: rest => if c = ' ' ∨ c = '\t' ∨ c = '\n' then skipAll rest else c :: rest
    | [] => []

/-- Reads the closing of a string of several lines at a run of quotes: three quotes close it, and
up to two before them belong to it. -/
def closing? (quote : Char) (read text : List Char) : Option (String × List Char) :=
  let count := (text.takeWhile (· == quote)).length
  if 3 ≤ count ∧ count ≤ 5 then
    some (String.ofList (read.reverse ++ List.replicate (count - 3) quote), text.drop count)
  else none

/-- Reads a string of several lines, in which a backslash may escape, in at most as many steps as
`fuel` has characters. -/
def linesWithin (quote : Char) (escapes : Bool) :
    List Char → List Char → List Char → Option (String × List Char)
  | [], _, _ => none
  | _, _, [] => none
  | _ :: fuel, read, c :: rest =>
    if c = quote then
      let run := (c :: rest).takeWhile (· == quote)
      if run.length < 3 then
        linesWithin quote escapes fuel (run ++ read) ((c :: rest).drop run.length)
      else closing? quote read (c :: rest)
    else if escapes ∧ c = '\\' then
      match joinLines? rest with
      | some rest => linesWithin quote escapes fuel read rest
      | none =>
        match escape? rest with
        | some (c, rest) => linesWithin quote escapes fuel (c :: read) rest
        | none => none
    else if c = '\n' then linesWithin quote escapes fuel ('\n' :: read) rest
    else if c = '\r' then
      match rest with
      | '\n' :: rest => linesWithin quote escapes fuel ('\n' :: read) rest
      | _ => none
    else if isPlain c then linesWithin quote escapes fuel (c :: read) rest
    else none

/-- Reads a string of several lines behind its opening quotes. A line end right behind them does
not belong to it. -/
def lines? (quote : Char) (escapes : Bool) (text : List Char) : Option (String × List Char) :=
  linesWithin quote escapes text [] (dropNewline text)

/-- Reads a string of any kind. -/
def string? (text : List Char) : Option (String × List Char) :=
  match text with
  | '"' :: '"' :: '"' :: rest => lines? '"' true rest
  | '"' :: rest => basic? rest
  | '\'' :: '\'' :: '\'' :: rest => lines? '\'' false rest
  | '\'' :: rest => literal? rest
  | _ => none

/-- A character of a key that needs no quotes. -/
def inBareKey (c : Char) : Bool := c.isAlphanum || c = '_' || c = '-'

/-- Reads a key without dots. -/
def simpleKey? (text : List Char) : Option (String × List Char) :=
  match text with
  | '"' :: rest => basic? rest
  | '\'' :: rest => literal? rest
  | _ =>
    match text.takeWhile inBareKey with
    | [] => none
    | key => some (String.ofList key, text.drop key.length)

end BotOps.Toml
