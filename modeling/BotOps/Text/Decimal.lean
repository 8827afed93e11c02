/-!
# Decimal numbers in ASCII digits

Reading a run of digits off the front of a text, and writing a number in a fixed number of digits.
-/

namespace BotOps.Text.Decimal

/-- The number that a run of ASCII digits writes, most significant digit first. -/
def value (digits : List Char) : Nat := digits.foldl (fun n c ↦ 10 * n + (c.toNat - '0'.toNat)) 0

/-- The longest run of ASCII digits at the front of a text, at most `limit` of them. -/
def run (limit : Nat) (text : List Char) : List Char := (text.take limit).takeWhile Char.isDigit

/-- Reads a number of one to `limit` digits, as many as there are, and the text behind it. -/
def upTo (limit : Nat) (text : List Char) : Option (Nat × List Char) :=
  match run limit text with
  | [] => none
  | digits => some (value digits, text.drop digits.length)

/-- Reads a number of exactly `width` digits and the text behind it. -/
def exactly (width : Nat) (text : List Char) : Option (Nat × List Char) :=
  if (run width text).length = width then
    some (value (text.take width), text.drop width)
  else none

/-- Reads a number of one or more digits and the text behind it. -/
def unbounded (text : List Char) : Option (Nat × List Char) := upTo text.length text

/-- Writes the last `width` decimal digits of a number, with leading zeros. -/
def fixed : Nat → Nat → List Char
  | 0, _ => []
  | width + 1, n => fixed width (n / 10) ++ [Nat.digitChar (n % 10)]

/-- Writes a number without leading zeros. -/
def plain (n : Nat) : List Char := Nat.toDigits 10 n

/-- A number written in a fixed width has that many characters. -/
theorem length_fixed (width n : Nat) : (fixed width n).length = width := by
  induction width generalizing n with
  | zero => rfl
  | succ width ih => simp [fixed, ih]

end BotOps.Text.Decimal
