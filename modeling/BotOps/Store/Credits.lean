import BotOps.Store.Basic

/-!
# Credits

One credit is kept for each subscription. A credit that is seen again only has its activity
refreshed; everything else keeps its first value.
-/

namespace BotOps.Store

/-- What became of a credit that was put into the store. -/
inductive Upsert where
  | inserted
  | updated
deriving DecidableEq, Repr, Inhabited

/-- The rows after a credit was put among them: its row is refreshed, or a new one follows the
others. -/
def putCredit (rows : List CreditRow) (credit : Credit) (now : String) : List CreditRow :=
  if rows.any fun row ↦ row.subscriptionId = credit.subscriptionId then
    rows.map fun row ↦
      if row.subscriptionId = credit.subscriptionId then row.refresh credit now else row
  else rows ++ [.ofCredit credit now]

namespace Statement

/-- The row of a subscription. -/
def creditRow? (subscriptionId : String) : Statement (Option CreditRow) := do
  let rows ← content .credits Store.credits
  return rows.find? fun row ↦ row.subscriptionId = subscriptionId

/-- Puts a credit into the table. -/
def putCredit (credit : Credit) (now : String) : Statement Unit := do
  let rows ← content .credits Store.credits
  let known := rows.any fun row ↦ row.subscriptionId = credit.subscriptionId
  permit (if known then .update else .insert) .credits (some credit.subscriptionId) true none
  modify fun store ↦ { store with credits := some (Store.putCredit rows credit now) }

end Statement

/-- Puts a credit into the store. -/
def upsertCredit (credit : Credit) (now : String) : Operation Upsert :=
  transaction do
    let known ← execute (Statement.creditRow? credit.subscriptionId)
    execute (Statement.putCredit credit now)
    return if known.isSome then .updated else .inserted

/-- The credit of a subscription. -/
def credit? (subscriptionId : String) : Operation (Option Credit) := do
  let row ← execute (Statement.creditRow? subscriptionId)
  return row.map CreditRow.credit

/-- How many credits are kept. -/
def countCredits : Operation Nat := do
  let rows ← execute (Statement.content .credits Store.credits)
  return rows.length

end BotOps.Store
