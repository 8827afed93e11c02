import BotOps.Pattern.Syntax
import BotOps.Text.Blank
import BotOps.Text.Decimal
import BotOps.Text.Hex

/-!
# Reading the elements of a pattern

The readers take an element off the front of a text. In an extended pattern blanks and comments
may stand almost everywhere, so each reader is told whether it may skip them.
-/

namespace BotOps.Pattern

open BotOps.Text

/-- What is left of a text behind leading blanks and comments; a comment goes to the end of its
line. -/
def skipComments (inComment : Bool) : List Char → List Char
  | [] => []
  | c :: rest =>
    if inComment then skipComments (c != '\n') rest
    else if isBlank c then skipComments false rest
    else if c = '#' then skipComments true rest
    else c :: rest

/-- What is left of a text behind what may be skipped. -/
def skip (extended : Bool) (text : List Char) : List Char :=
  if extended then skipComments false text else text

/-- Reads characters of a kind, skipping what may be skipped behind each; one may start among what
is skipped, or within a comment there. -/
def gatherFrom (extended : Bool) (kind : Char → Bool) (skipping inComment : Bool) :
    List Char → List Char × List Char
  | [] => ([], [])
  | c :: rest =>
    if inComment then gatherFrom extended kind true (c != '\n') rest
    else if skipping && isBlank c then gatherFrom extended kind true false rest
    else if skipping && c = '#' then gatherFrom extended kind true true rest
    else if kind c then
      let (read, rest) := gatherFrom extended kind extended false rest
      (c :: read, rest)
    else ([], c :: rest)

/-- Reads all characters of a kind at the front of a text. -/
def gather (extended : Bool) (kind : Char → Bool) (text : List Char) : List Char × List Char :=
  gatherFrom extended kind false false text

/-- Reads a decimal number of 32 bits with blanks around it. -/
def number? (extended : Bool) (text : List Char) : Option (Nat × List Char) :=
  let (digits, rest) := gather extended Char.isDigit (trimStart text)
  let (_, rest) := gather extended isBlank rest
  if digits ≠ [] ∧ Decimal.value digits < UInt32.size then some (Decimal.value digits, rest)
  else none

/-- What is left of a text that has to go on. -/
def more? (text : List Char) : Option (List Char) := if text = [] then none else some text

/-- Reads the hexadecimal digits of a code point of fixed width. -/
def hexFixed? (extended : Bool) : Nat → Nat → List Char → Option (Nat × List Char)
  | 0, point, text => some (point, text)
  | _ + 1, _, [] => none
  | width + 1, point, c :: rest => do
    let digit ← hexDigit? c
    hexFixed? extended width (16 * point + digit) (skip extended rest)

/-- Reads the character behind `\x`, `\u` or `\U`: digits between braces, or as many as the letter
asks for. -/
def hex? (extended : Bool) (width : Nat) (text : List Char) : Option (Element × List Char) := do
  match skip extended text with
  | '\x7b' :: rest =>
    let (digits, rest) := gather extended (· != '\x7d') (skip extended rest)
    let point ← hexValue? digits
    let c ← scalar? point
    match rest with
    | '\x7d' :: rest => some (.literal c false, skip extended rest)
    | _ => none
  | text =>
    let (point, rest) ← hexFixed? extended width 0 text
    let c ← scalar? point
    some (.literal c (width == 2), rest)

/-- Reads the name of a property: one character, or what stands between braces. -/
def propertyName? (extended : Bool) (text : List Char) : Option (List Char × List Char) :=
  match skip extended text with
  | [] => none
  | '\x7b' :: rest =>
    match gather extended (· != '\x7d') (skip extended rest) with
    | (name, '\x7d' :: rest) => some (name, rest)
    | _ => none
  | '\\' :: _ => none
  | c :: rest => some ([c], skip extended rest)

/-- The condition of a name behind `\b`. -/
def wordEdge? (name : List Char) : Option WordEdge :=
  match String.ofList name with
  | "start" => some .start
  | "end" => some .stop
  | "start-half" => some .startHalf
  | "end-half" => some .stopHalf
  | _ => none

/-- Reads what follows `\b`. A brace may belong to the name of a condition; if what follows it
cannot be one the brace is left for a repetition. -/
def wordBoundary? (extended : Bool) (text : List Char) : Option (Element × List Char) :=
  match text with
  | '\x7b' :: rest =>
    match skip extended rest with
    | [] => none
    | c :: rest =>
      if c.isAlpha || c = '-' then
        match gather extended (fun c ↦ c.isAlpha || c = '-') (c :: rest) with
        | (name, '\x7d' :: rest) => (wordEdge? name).map fun edge ↦ (.word edge, rest)
        | _ => none
      else some (.word .boundary, text)
  | _ => some (.word .boundary, text)

/-- The characters that mean something by themselves. -/
def metaCharacters : List Char := "\\.+*?()|[]\x7b\x7d^$#&-~".toList

/-- The characters that may be escaped to stand for themselves: those of ASCII that are neither
letters nor digits nor angles. -/
def isEscapable (c : Char) : Bool :=
  c ∈ metaCharacters || (c.toNat < 0x80 && !c.isAlphanum && c != '<' && c != '>')

/-- The element that a backslash and a letter write. -/
def letterEscape? (c : Char) : Option Element :=
  match c with
  | 'a' => some (.literal '\x07' false)
  | 'f' => some (.literal '\x0c' false)
  | 't' => some (.literal '\t' false)
  | 'n' => some (.literal '\n' false)
  | 'r' => some (.literal '\r' false)
  | 'v' => some (.literal '\x0b' false)
  | 'd' => some (.shorthand .digit false)
  | 's' => some (.shorthand .blank false)
  | 'w' => some (.shorthand .word false)
  | 'D' => some (.shorthand .digit true)
  | 'S' => some (.shorthand .blank true)
  | 'W' => some (.shorthand .word true)
  | 'A' => some .textStart
  | 'z' => some .textEnd
  | 'B' => some (.word .inside)
  | '<' => some (.word .start)
  | '>' => some (.word .stop)
  | _ => none

/-- Reads what follows a backslash. -/
def escape? (extended : Bool) (text : List Char) : Option (Element × List Char) :=
  match text with
  | [] => none
  | 'x' :: rest => hex? extended 2 rest
  | 'u' :: rest => hex? extended 4 rest
  | 'U' :: rest => hex? extended 8 rest
  | 'p' :: rest => (propertyName? extended rest).map fun read ↦ (.property read.1 false, read.2)
  | 'P' :: rest => (propertyName? extended rest).map fun read ↦ (.property read.1 true, read.2)
  | 'b' :: rest => wordBoundary? extended rest
  | c :: rest =>
    if isEscapable c then some (.literal c false, rest)
    else (letterEscape? c).map fun element ↦ (element, rest)

/-- Reads a part of a pattern that stands for itself. -/
def element? (extended : Bool) (text : List Char) : Option (Element × List Char) :=
  match text with
  | [] => none
  | '\\' :: rest => escape? extended rest
  | '.' :: rest => some (.point, rest)
  | '^' :: rest => some (.start, rest)
  | '$' :: rest => some (.stop, rest)
  | c :: rest => some (.literal c false, rest)

/-- Reads the count of a repetition behind its opening brace: the least number and the greatest, if
there is one. A question mark behind it only says what is preferred. -/
def count? (extended : Bool) (text : List Char) : Option ((Nat × Option Nat) × List Char) := do
  let text ← more? (skip extended text)
  let (least, text) ← number? extended text
  let (greatest, text) ← match text with
    | ',' :: rest =>
      match skip extended rest with
      | '\x7d' :: rest => some (none, '\x7d' :: rest)
      | rest => (number? extended rest).map fun read ↦ (some read.1, read.2)
    | _ => some (some least, text)
  match text with
  | '\x7d' :: rest =>
    if greatest.all (least ≤ ·) then
      match skip extended rest with
      | '?' :: rest => some ((least, greatest), rest)
      | rest => some ((least, greatest), rest)
    else none
  | _ => none

end BotOps.Pattern
