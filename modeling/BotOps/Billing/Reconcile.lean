import BotOps.Billing.Cursor
import BotOps.Job
import BotOps.Store.Credits
import BotOps.Time.Zoned

/-!
# Reconciliation

Goes through all entitlements of the platform, page by page, and keeps one credit for each
subscription. The pages end with the first one that is not full. A full page has to end behind its
beginning, so that the cursor grows and the pages come to an end whatever the platform answers.
-/

namespace BotOps.Billing

open BotOps.Store BotOps.Time

/-- The platform: answers with the entitlements behind a cursor, or fails. -/
abbrev Source (σ : Type) := UInt64 → StateM σ (Except Failure (List Entitlement))

/-- Reads a bound of a validity. A bound that cannot be read is reported and counts as missing. -/
def readBound (field : String) (raw : Option String) : Option Instant × List Event :=
  match raw with
  | none => (none, [])
  | some value =>
    match Instant.parse? value with
    | some t => (some t, [])
    | none => (none, [.badTimestamp field value])

/-- The credit that a subscription earns when it is first seen. -/
def newCredit (planId : String) (now : Instant) (entitlement : Entitlement)
    (subscriptionId : String) (activity : Activity) : Credit where
  userId := entitlement.userId
  subscriptionId := subscriptionId
  guildId := entitlement.guildId
  active := activity.isActive
  since := now.stored
  planId := planId
  paymentFailed := false

/-- Counts a credit that was put into the store. -/
def Stats.count (stats : Stats) : Upsert → Stats
  | .inserted => { stats with inserted := stats.inserted + 1 }
  | .updated => { stats with updated := stats.updated + 1 }

section

variable {σ : Type} (planId : String) (now : Instant)

/-- Reports a subscription and keeps its credit. -/
def keepCredit (stats : Stats) (entitlement : Entitlement) : Job Failure σ Stats := do
  let (start, startEvents) := readBound "starts_at" entitlement.startsAt
  let (stop, stopEvents) := readBound "ends_at" entitlement.endsAt
  let activity := Activity.of now start stop
  let events := startEvents ++ stopEvents ++ [.subscription entitlement activity start stop]
  events.forM Job.report
  match entitlement.subscription? with
  | none => return { stats with withoutId := stats.withoutId + 1 }
  | some subscriptionId =>
    let credit := newCredit planId now entitlement subscriptionId activity
    let outcome ← Job.attempt (upsertCredit credit now.stored)
    let outcome ← Job.require outcome Failure.persistence
    return stats.count outcome

/-- Handles one entitlement. Its identifier becomes the cursor, also if it is no subscription. -/
def handle (stats : Stats) (entitlement : Entitlement) : Job Failure σ Stats := do
  match cursor? entitlement.id with
  | none => throw (.service (.badIdentifier entitlement.id))
  | some id =>
    let stats := { stats with lastId := id, seen := stats.seen + 1 }
    if entitlement.isSubscription then
      keepCredit planId now { stats with subscriptions := stats.subscriptions + 1 } entitlement
    else return { stats with skipped := stats.skipped + 1 }

/-- Handles the pages behind the cursor. -/
def pages (source : Source σ) (stats : Stats) : Job Failure σ Stats := do
  let answer ← Job.ask (source stats.lastId)
  let page ← Job.require answer id
  Job.report (.pageFetched stats.lastId page.length)
  let read ← page.foldlM (handle planId now) { stats with pages := stats.pages + 1 }
  if page.length < pageSize then return read
  else if _h : stats.lastId < read.lastId then pages source read
  else throw (.service (.noProgress stats.lastId))
termination_by UInt64.size - stats.lastId.toNat
decreasing_by
  have := UInt64.lt_iff_toNat_lt.mp _h
  have : read.lastId.toNat < UInt64.size := read.lastId.toNat_lt
  omega

/-- Goes through all entitlements. -/
def reconcile (source : Source σ) : Job Failure σ Stats := do
  let stats ← pages planId now source .start
  Job.report (.reconciled stats)
  return stats

end

end BotOps.Billing
