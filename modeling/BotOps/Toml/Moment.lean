import BotOps.Text.Decimal
import BotOps.Time.Date
import BotOps.Toml.Lexical

/-!
# Dates and times of TOML

A date, a time of day, or both with an optional zone. They are checked and skipped.
-/

namespace BotOps.Toml

open BotOps.Text BotOps.Time

/-- Reads two digits that make a number within bounds. -/
def twoDigits? (least greatest : Nat) (text : List Char) : Option (Nat × List Char) := do
  let (n, rest) ← Decimal.exactly 2 text
  if least ≤ n ∧ n ≤ greatest then some (n, rest) else none

/-- Reads a date that exists. -/
def date? (text : List Char) : Option (List Char) := do
  let (year, text) ← Decimal.exactly 4 text
  let text ← expect? '-' text
  let (month, text) ← twoDigits? 1 12 text
  let text ← expect? '-' text
  let (day, text) ← twoDigits? 1 31 text
  if Date.IsValid ⟨year, month, day⟩ then some text else none

/-- Reads a fraction of a second, if there is one. -/
def secondFraction? (text : List Char) : Option (List Char) :=
  match text with
  | '.' :: rest =>
    if rest.head?.any Char.isDigit then some (rest.dropWhile Char.isDigit) else none
  | _ => some text

/-- Reads a time of day. -/
def time? (text : List Char) : Option (List Char) := do
  let (_, text) ← twoDigits? 0 23 text
  let text ← expect? ':' text
  let (_, text) ← twoDigits? 0 59 text
  let text ← expect? ':' text
  let (_, text) ← twoDigits? 0 60 text
  secondFraction? text

/-- Reads a zone, if there is one. -/
def zone? (text : List Char) : Option (List Char) :=
  match text with
  | c :: rest =>
    if c = 'Z' ∨ c = 'z' then some rest
    else if c = '+' ∨ c = '-' then do
      let (_, text) ← twoDigits? 0 23 rest
      let text ← expect? ':' text
      let (_, text) ← twoDigits? 0 59 text
      some text
    else some text
  | [] => some text

/-- The text begins like a time of day: with two digits and a colon. -/
def beginsTime (text : List Char) : Bool :=
  match text with
  | a :: b :: ':' :: _ => a.isDigit && b.isDigit
  | _ => false

/-- Reads the time and zone behind a date, if there are any. A blank behind the date only belongs
to it if a time follows. -/
def timeBehind? (text : List Char) : Option (List Char) :=
  match text with
  | c :: rest =>
    if (c = 'T' ∨ c = 't' ∨ c = ' ') ∧ beginsTime rest then time? rest >>= zone? else some text
  | [] => some text

/-- The text begins like a date: with four digits and a hyphen. -/
def beginsDate (text : List Char) : Bool :=
  match text with
  | a :: b :: c :: d :: '-' :: _ => a.isDigit && b.isDigit && c.isDigit && d.isDigit
  | _ => false

/-- The text begins like a date or a time. -/
def beginsMoment (text : List Char) : Bool := beginsDate text || beginsTime text

/-- What is left of a text behind a date or a time. -/
def moment? (text : List Char) : Option (List Char) :=
  if beginsDate text then date? text >>= timeBehind? else time? text

end BotOps.Toml
