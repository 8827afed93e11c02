import BotOps.Time.Instant

/-!
# Time windows

The stretch of local time whose reports count towards a sample. Both ends belong to it.
-/

namespace BotOps.Log

open BotOps.Time

/-- A stretch of time from its first instant to its last. -/
structure Window where
  first : Instant
  last : Instant
deriving DecidableEq, Repr

namespace Window

/-- The window of a number of minutes that ends at an instant, if the calendar holds it. -/
def endingAt (last : Instant) (minutes : UInt32) : Option Window :=
  (last.ago (minutes.toNat * 60)).map fun first ↦ ⟨first, last⟩

/-- A window contains its ends and all instants between them. -/
def contains (window : Window) (t : Instant) : Bool := window.first ≤ t && t ≤ window.last

end Window

end BotOps.Log
