import BotOps.Text.Decimal
import BotOps.Text.Hex

/-!
# Numbers of TOML

Underscores may stand between digits. Integers have 64 bits. A float that is too great to be finite
is none, unless it is negative.
-/

namespace BotOps.Toml

open BotOps.Text

/-- Reads a run of digits in which underscores may stand between two digits: the digits, and the
text behind the run. An underscore that no digit follows spoils the number. -/
def digitRun? (isDigit : Char → Bool) (text : List Char) : Option (List Char × List Char) :=
  let run := text.takeWhile fun c ↦ isDigit c || c = '_'
  let paired := (run.zip (run.drop 1)).all fun pair ↦ !(pair.1 = '_' && pair.2 = '_')
  match run.head?, run.getLast? with
  | some first, some last =>
    if isDigit first && isDigit last && paired then
      some (run.filter (· != '_'), text.drop run.length)
    else none
  | _, _ => none

/-- Reads an optional sign. -/
def sign (text : List Char) : List Char × List Char :=
  match text with
  | '+' :: rest => (['+'], rest)
  | '-' :: rest => (['-'], rest)
  | _ => ([], text)

/-- Reads decimal digits without leading zeros. A zero stands alone. -/
def wholePart? (text : List Char) : Option (List Char × List Char) :=
  match text with
  | '0' :: rest => some (['0'], rest)
  | _ => digitRun? Char.isDigit text

/-- Reads an optional exponent: its sign and digits. -/
def exponent? (text : List Char) : Option ((List Char × List Char) × List Char) :=
  match text with
  | c :: rest =>
    if c = 'e' ∨ c = 'E' then
      let (mark, rest) := sign rest
      (digitRun? Char.isDigit rest).map fun read ↦ ((mark, read.1), read.2)
    else some (([], []), text)
  | [] => some (([], []), text)

/-- Reads an optional fraction: its digits. -/
def fraction? (text : List Char) : Option (List Char × List Char) :=
  match text with
  | '.' :: rest => digitRun? Char.isDigit rest
  | _ => some ([], text)

/-- The least number that is rounded to infinity. -/
def infiniteFrom : Nat := Nat.pow 2 1024 - Nat.pow 2 970

/-- The number `digits · 10 ^ exponent` is rounded to infinity. A number with many digits before
or behind its point is decided by their count alone. -/
def isInfinite (digits : List Char) (exponent : Int) : Bool :=
  let significant := digits.dropWhile (· == '0')
  let magnitude := significant.length + exponent
  if significant = [] ∨ magnitude < 300 then false
  else if 400 < magnitude then true
  else
    let value := Decimal.value significant
    if 0 ≤ exponent then infiniteFrom ≤ value * Nat.pow 10 exponent.toNat
    else infiniteFrom * Nat.pow 10 (-exponent).toNat ≤ value

/-- What a text that begins with a number begins with. -/
inductive Number where
  | integer (value : Int)
  | float
deriving DecidableEq, Repr

/-- Takes a sign into account. -/
def signed (mark : List Char) (n : Nat) : Int := if mark = ['-'] then -(n : Int) else n

/-- An integer, if it has 64 bits. -/
def integer? (n : Int) : Option Number :=
  if Int64.minValue.toInt ≤ n ∧ n ≤ Int64.maxValue.toInt then some (.integer n) else none

/-- Reads an integer in a base behind its mark. -/
def based? (base : Nat) (text : List Char) : Option (Number × List Char) := do
  let (digits, rest) ← digitRun? (fun c ↦ (hexDigit? c).any (· < base)) text
  let value := digits.foldl (fun n c ↦ base * n + (hexDigit? c).getD 0) 0
  let number ← integer? value
  some (number, rest)

/-- Reads a decimal number. It is a float if it has a fraction or an exponent. -/
def decimal? (text : List Char) : Option (Number × List Char) := do
  let (mark, rest) := sign text
  let (whole, rest) ← wholePart? rest
  let (fraction, behind) ← fraction? rest
  let ((powerMark, power), behind) ← exponent? behind
  if fraction = [] ∧ power = [] then
    let number ← integer? (signed mark (Decimal.value whole))
    some (number, rest)
  else
    let shift := signed powerMark (Decimal.value power) - fraction.length
    if isInfinite (whole ++ fraction) shift ∧ mark ≠ ['-'] then none
    else some (.float, behind)

/-- Reads infinity or what is no number. -/
def special? (text : List Char) : Option (Number × List Char) :=
  match (sign text).2 with
  | 'i' :: 'n' :: 'f' :: rest => some (.float, rest)
  | 'n' :: 'a' :: 'n' :: rest => some (.float, rest)
  | _ => none

/-- Reads a number. -/
def number? (text : List Char) : Option (Number × List Char) :=
  match text with
  | '0' :: 'x' :: rest => based? 16 rest
  | '0' :: 'o' :: rest => based? 8 rest
  | '0' :: 'b' :: rest => based? 2 rest
  | _ => (special? text).orElse fun _ ↦ decimal? text

end BotOps.Toml
