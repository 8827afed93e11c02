/-!
# Hexadecimal digits

The value of a digit of either case, and of a run of digits.
-/

namespace BotOps.Text

/-- The value of a hexadecimal digit. -/
def hexDigit? (c : Char) : Option Nat :=
  if '0' ≤ c ∧ c ≤ '9' then some (c.toNat - '0'.toNat)
  else if 'a' ≤ c ∧ c ≤ 'f' then some (c.toNat - 'a'.toNat + 10)
  else if 'A' ≤ c ∧ c ≤ 'F' then some (c.toNat - 'A'.toNat + 10)
  else none

/-- The value of one or more hexadecimal digits, most significant digit first. -/
def hexValue? (digits : List Char) : Option Nat :=
  if digits = [] then none
  else digits.foldlM (fun n c ↦ (hexDigit? c).map fun d ↦ 16 * n + d) 0

/-- The character of a code point, unless the code point is a surrogate or out of range. -/
def scalar? (point : Nat) : Option Char :=
  if point.isValidChar then some (Char.ofNat point) else none

end BotOps.Text
