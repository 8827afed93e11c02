import BotOps.Text.Blank
import BotOps.Text.Decimal
import BotOps.Time.Instant

/-!
# Timestamps with a zone

The timestamps of the platform: a date, a separator, a time, an optional fraction of a second and
a zone, as in `2024-01-01T00:00:00.000000+00:00`. Blanks around them are ignored.
-/

namespace BotOps.Time

open BotOps.Text

/-- Reads one given character. -/
def expect (c : Char) : List Char → Option (List Char)
  | [] => none
  | d :: rest => if d = c then some rest else none

namespace Zoned

/-- Reads what stands between the date and the time: a `T` of either case or one blank. -/
def separator : List Char → Option (List Char)
  | c :: rest => if c = 'T' ∨ c = 't' ∨ c = ' ' then some rest else none
  | [] => none

/-- The nanoseconds that the digits behind a decimal point write; digits beyond the ninth do not
count. -/
def nanosOf (digits : List Char) : Nat :=
  let kept := digits.take 9
  Decimal.value kept * Nat.pow 10 (9 - kept.length)

/-- Reads an optional fraction of a second: a point and one or more digits. -/
def fraction (text : List Char) : Option (Nat × List Char) :=
  match text with
  | '.' :: rest =>
    match rest.takeWhile Char.isDigit with
    | [] => none
    | digits => some (nanosOf digits, rest.drop digits.length)
  | _ => some (0, text)

/-- The direction in which a zone's sign moves its clock; the minus sign of typography is one. -/
def signOf (c : Char) : Option Int :=
  if c = '+' then some 1 else if c = '-' ∨ c = '\u2212' then some (-1) else none

/-- Reads a zone, the last part of a timestamp: how many seconds its clock is ahead. -/
def zone (text : List Char) : Option Int :=
  match text with
  | ['Z'] => some 0
  | ['z'] => some 0
  | c :: rest => do
    let sign ← signOf c
    let (hours, rest) ← Decimal.exactly 2 rest
    let rest ← expect ':' rest
    let (minutes, rest) ← Decimal.exactly 2 rest
    if rest = [] ∧ hours < 24 ∧ minutes < 60 then
      some (sign * (hours * 3600 + minutes * 60 : Nat))
    else none
  | [] => none

/-- Reads a whole timestamp without blanks around it. -/
def parse (text : List Char) : Option Instant := do
  let (year, text) ← Decimal.exactly 4 text
  let text ← expect '-' text
  let (month, text) ← Decimal.exactly 2 text
  let text ← expect '-' text
  let (day, text) ← Decimal.exactly 2 text
  let text ← separator text
  let (hour, text) ← Decimal.exactly 2 text
  let text ← expect ':' text
  let (minute, text) ← Decimal.exactly 2 text
  let text ← expect ':' text
  let (second, text) ← Decimal.exactly 2 text
  let (nanos, text) ← fraction text
  let ahead ← zone text
  Instant.ofReading? ⟨⟨year, month, day⟩, hour, minute, second⟩ nanos ahead

end Zoned

/-- The instant that a timestamp of the platform names, if it is well formed. -/
def Instant.parse? (text : String) : Option Instant := Zoned.parse (trim text.toList)

end BotOps.Time
