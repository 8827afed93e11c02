import BotOps.Json.Value
import BotOps.Text.Decimal
import BotOps.Text.Hex

/-!
# From text to JSON tokens

`Token.ofText?` cuts a text into tokens. Blanks between tokens do not matter; everything else has
to belong to a token.
-/

namespace BotOps.Json

open BotOps.Text

/-- The characters that may stand between tokens. -/
def isSpace (c : Char) : Bool := c = ' ' || c = '\t' || c = '\n' || c = '\r'

/-- A part of a string's content: a character, or a code unit that is half of a surrogate pair. -/
inductive Piece where
  | char (c : Char)
  | high (unit : Nat)
  | low (unit : Nat)
deriving DecidableEq, Repr

namespace Piece

/-- The piece that a code unit is. -/
def ofUnit (unit : Nat) : Piece :=
  if 0xd800 ≤ unit ∧ unit < 0xdc00 then .high unit
  else if 0xdc00 ≤ unit ∧ unit < 0xe000 then .low unit
  else .char (Char.ofNat unit)

/-- The character that a surrogate pair stands for. -/
def pair (high low : Nat) : Char := Char.ofNat (0x10000 + (high - 0xd800) * 0x400 + (low - 0xdc00))

/-- The text that pieces make, if every half of a pair meets its other half. -/
def join : List Piece → Option (List Char)
  | [] => some []
  | .char c :: rest => (join rest).map (c :: ·)
  | .high h :: .low l :: rest => (join rest).map (pair h l :: ·)
  | _ :: _ => none

end Piece

/-- The character that a short escape stands for. -/
def shortEscape? (c : Char) : Option Char :=
  match c with
  | '"' => some '"'
  | '\\' => some '\\'
  | '/' => some '/'
  | 'b' => some '\x08'
  | 'f' => some '\x0c'
  | 'n' => some '\n'
  | 'r' => some '\r'
  | 't' => some '\t'
  | _ => none

/-- The code unit that four hexadecimal digits write. -/
def unit? (a b c d : Char) : Option Nat := do
  let a ← hexDigit? a
  let b ← hexDigit? b
  let c ← hexDigit? c
  let d ← hexDigit? d
  some (a * 4096 + b * 256 + c * 16 + d)

/-- Reads the content of a string up to its closing quote, and the text behind it. Controls have
to be escaped. -/
def pieces : List Char → Option (List Piece × List Char)
  | [] => none
  | '"' :: rest => some ([], rest)
  | '\\' :: 'u' :: a :: b :: c :: d :: rest => do
    let unit ← unit? a b c d
    let (read, rest) ← pieces rest
    some (.ofUnit unit :: read, rest)
  | '\\' :: e :: rest => do
    let c ← shortEscape? e
    let (read, rest) ← pieces rest
    some (.char c :: read, rest)
  | c :: rest =>
    if c.toNat < 0x20 ∨ c = '\\' then none
    else (pieces rest).map fun parts ↦ (.char c :: parts.1, parts.2)

/-- Reads an optional part that begins with one of some characters and has one or more digits:
the spelling of the part and the text behind it. -/
def digitsAfter (front : List Char) (text : List Char) : Option (List Char × List Char) :=
  match text.takeWhile Char.isDigit with
  | [] => none
  | digits => some (front ++ digits, text.drop digits.length)

/-- Reads an optional fraction. -/
def fractionPart (text : List Char) : Option (List Char × List Char) :=
  match text with
  | '.' :: rest => digitsAfter ['.'] rest
  | _ => some ([], text)

/-- Reads an optional exponent. -/
def exponentPart (text : List Char) : Option (List Char × List Char) :=
  match text with
  | c :: rest =>
    if c = 'e' ∨ c = 'E' then
      match rest with
      | s :: rest' => if s = '+' ∨ s = '-' then digitsAfter [c, s] rest' else digitsAfter [c] rest
      | [] => none
    else some ([], text)
  | [] => some ([], text)

/-- Reads the whole part of a number: a zero, or digits of which the first is none. -/
def wholePart (text : List Char) : Option (List Char × List Char) :=
  match text with
  | '0' :: rest => some (['0'], rest)
  | _ => digitsAfter [] text

/-- Reads the spelling of a number. -/
def numberSpelling (text : List Char) : Option (List Char × List Char) := do
  let (sign, text) := match text with
    | '-' :: rest => (['-'], rest)
    | _ => ([], text)
  let (whole, text) ← wholePart text
  let (fraction, text) ← fractionPart text
  let (exponent, text) ← exponentPart text
  some (sign ++ whole ++ fraction ++ exponent, text)

/-- Reads one token at the very front of a text. -/
def Token.read (text : List Char) : Option (Token × List Char) :=
  match text with
  | [] => none
  | '[' :: rest => some (.openArray, rest)
  | ']' :: rest => some (.closeArray, rest)
  | '\x7b' :: rest => some (.openObject, rest)
  | '\x7d' :: rest => some (.closeObject, rest)
  | ':' :: rest => some (.colon, rest)
  | ',' :: rest => some (.comma, rest)
  | 'n' :: 'u' :: 'l' :: 'l' :: rest => some (.null, rest)
  | 't' :: 'r' :: 'u' :: 'e' :: rest => some (.bool true, rest)
  | 'f' :: 'a' :: 'l' :: 's' :: 'e' :: rest => some (.bool false, rest)
  | '"' :: rest =>
    (pieces rest).map fun parts ↦ (.string ((Piece.join parts.1).map String.ofList), parts.2)
  | _ => (numberSpelling text).map fun parts ↦ (.number parts.1, parts.2)

/-- The tokens of a text, as far as `fuel` characters and tokens reach. -/
def Token.ofTextWithin : Nat → List Char → Option (List Token)
  | _, [] => some []
  | 0, _ :: _ => none
  | fuel + 1, c :: rest =>
    if isSpace c then Token.ofTextWithin fuel rest
    else
      match Token.read (c :: rest) with
      | none => none
      | some (token, rest) => (Token.ofTextWithin fuel rest).map (token :: ·)

/-- The tokens of a text, if all of it consists of tokens and blanks. No token is empty, so there
are at most as many as the text has characters. -/
def Token.ofText? (text : List Char) : Option (List Token) := Token.ofTextWithin text.length text

end BotOps.Json
