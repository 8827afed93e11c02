import BotOps.Proofs.Preservation
import BotOps.Store.Census
import BotOps.Store.Credits
import BotOps.Store.Migration

/-!
# Operations that only read

A query keeps every property of the store, so it leaves the store as it was.
-/

namespace BotOps.Store

variable {P : Store → Prop}

namespace Statement

private theorem keeps_creditRow? (subscriptionId : String) :
    Statement.Keeps P (creditRow? subscriptionId) :=
  .bind (.content _ _) fun _ ↦ .pure _

private theorem keeps_readGraphs : Statement.Keeps P readGraphs := by
  refine .bind (.content _ _) fun table ↦ ?_
  split
  · exact .throw _
  · exact .pure _

/-- To read the counter keeps everything. -/
theorem keeps_questionsAsked : Statement.Keeps P questionsAsked := by
  refine .bind (.content _ _) fun tallies ↦ ?_
  split
  · exact .pure _
  · exact .throw _
  · exact .throw _

/-- To read the names of migrations keeps everything. -/
theorem keeps_migrationNames : Statement.Keeps P migrationNames := .content _ _

end Statement

open Statement

/-- To look a credit up keeps everything. -/
theorem keeps_credit? (subscriptionId : String) : Keeps P (credit? subscriptionId) :=
  .bind (keeps_execute (keeps_creditRow? subscriptionId)) fun _ ↦ .pure _

/-- To count the credits keeps everything. -/
theorem keeps_countCredits : Keeps P countCredits :=
  .bind (keeps_execute (.content _ _)) fun _ ↦ .pure _

/-- To sum the population up keeps everything. -/
theorem keeps_aggregate : Keeps P aggregate := by
  refine keeps_execute (.bind (.content _ _) fun rows ↦ ?_)
  split
  · exact .pure _
  · exact .throw _

/-- To sum the shards up keeps everything. -/
theorem keeps_shardSummary : Keeps P shardSummary :=
  .bind (keeps_execute (.content _ _)) fun _ ↦ .pure _

/-- To count the questions keeps everything. -/
theorem keeps_questionBankSize : Keeps P questionBankSize :=
  .bind (keeps_execute (.content _ _)) fun _ ↦ .pure _

/-- To read the latest sample keeps everything. -/
theorem keeps_latestSample : Keeps P latestSample :=
  keeps_execute (.bind keeps_readGraphs fun _ ↦ .lift _)

/-- To list the samples keeps everything. -/
theorem keeps_listSamples : Keeps P listSamples :=
  keeps_execute (.bind keeps_readGraphs fun _ ↦ .lift _)

/-- To list the migrations keeps everything. -/
theorem keeps_appliedMigrations : Keeps P appliedMigrations :=
  .bind (keeps_execute keeps_migrationNames) fun _ ↦ .pure _

end BotOps.Store
