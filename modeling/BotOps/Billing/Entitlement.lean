import BotOps.Text.Blank

/-!
# Entitlements

What the platform reports about a purchase. Some kinds of purchase are subscriptions.
-/

namespace BotOps.Billing

/-- One purchase as the platform reports it. -/
structure Entitlement where
  id : String
  userId : Option String
  guildId : Option String
  subscriptionId : Option String
  kind : UInt8
  startsAt : Option String
  endsAt : Option String
deriving DecidableEq, Repr, Inhabited

/-- The kinds of purchase that are subscriptions: one for users and one for guilds. -/
def subscriptionKinds : List UInt8 := [6, 8]

/-- The number of entitlements that a full page holds. -/
def pageSize : Nat := 100

namespace Entitlement

/-- A purchase of one of the subscription kinds. -/
def isSubscription (entitlement : Entitlement) : Bool := entitlement.kind ∈ subscriptionKinds

/-- The subscription that a purchase belongs to, unless none is named or its name is blank. -/
def subscription? (entitlement : Entitlement) : Option String :=
  entitlement.subscriptionId.filter fun id ↦ !Text.isBlankText id

end Entitlement

end BotOps.Billing
