import BotOps.Time.Instant

/-!
# Activity of a subscription

A subscription is active from the start of its validity to the end, both included. Where a bound
is not known nothing can be said.
-/

namespace BotOps.Billing

open BotOps.Time

/-- Whether a subscription is valid at a moment. -/
inductive Activity where
  | active
  | inactive
  /-- A bound of the validity is missing. -/
  | unknown
deriving DecidableEq, Repr

namespace Activity

/-- The activity at a moment of a validity with the given bounds. -/
def of (now : Instant) (start stop : Option Instant) : Activity :=
  match start, stop with
  | some start, some stop => if start ≤ now ∧ now ≤ stop then .active else .inactive
  | _, _ => .unknown

/-- Only a subscription known to be valid counts as active. -/
def isActive (activity : Activity) : Bool := activity = .active

/-- The flag that the database keeps for an activity. -/
def flag (activity : Activity) : Int64 := if activity.isActive then 1 else 0

/-- The name of an activity in the log. -/
def name : Activity → String
  | .active => "Active"
  | .inactive => "Inactive"
  | .unknown => "Unknown"

end Activity

end BotOps.Billing
