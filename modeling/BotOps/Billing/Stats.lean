/-!
# Statistics of a reconciliation

What a reconciliation counts while it goes through the pages.
-/

namespace BotOps.Billing

/-- The counts of a reconciliation and the identifier it read last. -/
structure Stats where
  /-- Pages fetched. -/
  pages : Nat
  /-- Entitlements read. -/
  seen : Nat
  /-- Entitlements that are subscriptions. -/
  subscriptions : Nat
  /-- Entitlements that are none. -/
  skipped : Nat
  /-- Credits that are new. -/
  inserted : Nat
  /-- Credits that were there. -/
  updated : Nat
  /-- Subscriptions without a usable identifier. -/
  withoutId : Nat
  lastId : UInt64
deriving DecidableEq, Repr, Inhabited

/-- Nothing was counted yet. -/
def Stats.start : Stats := ⟨0, 0, 0, 0, 0, 0, 0, 0⟩

end BotOps.Billing
