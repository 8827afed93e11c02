import BotOps.Text.Blank
import BotOps.Text.Decimal
import BotOps.Text.Digit
import BotOps.Time.Zoned

/-!
# Lines of the bot's log

A line of the log may begin with a timestamp in local time and may report an event. The timestamp
occupies the first nineteen bytes and a point follows it; the reports are found anywhere in the
line.
-/

namespace BotOps.Log

open BotOps.Text BotOps.Time

/-- Splits a text behind its first `size` bytes of UTF-8, if a character ends there. -/
def splitAtByte : Nat → List Char → Option (List Char × List Char)
  | 0, text => some ([], text)
  | _ + 1, [] => none
  | size + 1, c :: rest =>
    if c.utf8Size ≤ size + 1 then
      (splitAtByte (size + 1 - c.utf8Size) rest).map fun parts ↦ (c :: parts.1, parts.2)
    else none

namespace Stamp

/-- The bytes that a timestamp occupies. -/
def width : Nat := 19

/-- Reads a year: up to four digits, or a sign and any number of digits. -/
def year (text : List Char) : Option (Int × List Char) :=
  match text with
  | '-' :: rest => (Decimal.unbounded rest).map fun read ↦ (-(read.1 : Int), read.2)
  | '+' :: rest => (Decimal.unbounded rest).map fun read ↦ ((read.1 : Int), read.2)
  | _ => (Decimal.upTo 4 text).map fun read ↦ ((read.1 : Int), read.2)

/-- Reads a number of one or two digits behind any blanks. -/
def field (text : List Char) : Option (Nat × List Char) := Decimal.upTo 2 (trimStart text)

/-- Reads a whole timestamp: year, month and day joined by hyphens, hour, minute and second joined
by colons, and blanks allowed before each number. -/
def parse (text : List Char) : Option Instant := do
  let (year, text) ← year (trimStart text)
  let text ← expect '-' text
  let (month, text) ← field text
  let text ← expect '-' text
  let (day, text) ← field text
  let (hour, text) ← field text
  let text ← expect ':' text
  let (minute, text) ← field text
  let text ← expect ':' text
  let (second, text) ← field text
  if text = [] then Instant.ofReading? ⟨⟨year, month, day⟩, hour, minute, second⟩ 0 0 else none

end Stamp

/-- The local time at the front of a line: its first nineteen bytes, if a point follows them. -/
def stamp? (line : List Char) : Option Instant :=
  match splitAtByte Stamp.width line with
  | some (front, '.' :: _) => Stamp.parse front
  | _ => none

/-- What a line can report. -/
inductive Report where
  /-- The bot was removed from a guild. -/
  | kick
  /-- A user gave the bot a command. -/
  | command
deriving DecidableEq, Repr

/-- Reads one or more decimal digits of any script and then a given text. -/
def digitsThen (literal : List Char) (text : List Char) : Option (List Char) :=
  match text.takeWhile isDecimalDigit with
  | [] => none
  | digits => literal.isPrefixOf? (text.drop digits.length)

/-- A text begins with the report of a kick. -/
def beginsKick (text : List Char) : Bool :=
  ("Guild ".toList.isPrefixOf? text >>=
    digitsThen " deleted (bot kicked?), removing active game states".toList).isSome

/-- A text begins with the report of a command. -/
def beginsCommand (text : List Char) : Bool :=
  ("CMD (USER=".toList.isPrefixOf? text >>= digitsThen ", GUILD=".toList >>=
    digitsThen "):".toList).isSome

/-- Some rest of a text has a property. -/
def anywhere (p : List Char → Bool) : List Char → Bool
  | [] => p []
  | c :: rest => p (c :: rest) || anywhere p rest

/-- What a line reports; the report of a kick goes before that of a command. -/
def report? (line : List Char) : Option Report :=
  if anywhere beginsKick line then some .kick
  else if anywhere beginsCommand line then some .command
  else none

end BotOps.Log
