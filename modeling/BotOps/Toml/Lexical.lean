/-!
# Lexical elements of TOML

Blanks, line ends and comments. A reader that can do without what it reads gives what is left of
the text; one that cannot gives nothing if it is missing.
-/

namespace BotOps.Toml

/-- What is left of a text behind blanks within a line. -/
def skipBlanks (text : List Char) : List Char := text.dropWhile fun c ↦ c = ' ' || c = '\t'

/-- A character that a comment may hold. -/
def inComment (c : Char) : Bool := c = '\t' || (0x20 ≤ c.toNat && c.toNat != 0x7f)

/-- What is left of a text behind a comment, if there is one. -/
def skipComment (text : List Char) : List Char :=
  match text with
  | '#' :: rest => rest.dropWhile inComment
  | _ => text

/-- Reads the end of a line, which may be the end of the text. -/
def lineEnd? (text : List Char) : Option (List Char) :=
  match text with
  | [] => some []
  | '\n' :: rest => some rest
  | '\r' :: '\n' :: rest => some rest
  | _ => none

/-- Reads what may stand behind the content of a line, and its end. -/
def lineRest? (text : List Char) : Option (List Char) := lineEnd? (skipComment (skipBlanks text))

/-- What is left of a text behind blanks, line ends and comments; a comment ends with its line. -/
def skipLines (commented : Bool) : List Char → List Char
  | [] => []
  | '\n' :: rest => skipLines false rest
  | '\r' :: '\n' :: rest => skipLines false rest
  | c :: rest =>
    if commented then if inComment c then skipLines true rest else c :: rest
    else if c = ' ' ∨ c = '\t' then skipLines false rest
    else if c = '#' then skipLines true rest
    else c :: rest

/-- Reads one given character. -/
def expect? (c : Char) : List Char → Option (List Char)
  | [] => none
  | d :: rest => if d = c then some rest else none

end BotOps.Toml
