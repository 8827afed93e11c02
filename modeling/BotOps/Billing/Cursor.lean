import BotOps.Billing.Entitlement
import BotOps.Text.Decimal

/-!
# Cursors

Pages are fetched behind the identifier of an entitlement, which has to be a number of 64 bits.
-/

namespace BotOps.Billing

open BotOps.Text

/-- A text without one leading plus sign. -/
def dropPlus : List Char → List Char
  | '+' :: rest => rest
  | text => text

/-- The number that an identifier writes: blanks around it and a plus sign before it do not
matter, and it has to fit in 64 bits. -/
def cursor? (id : String) : Option UInt64 :=
  let digits := dropPlus (trim id.toList)
  if digits ≠ [] ∧ digits.all Char.isDigit ∧ Decimal.value digits < UInt64.size then
    some (UInt64.ofNat (Decimal.value digits))
  else none

end BotOps.Billing
