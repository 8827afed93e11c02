import BotOps.Proofs.Store.Queries

/-!
# Operations that write

An operation keeps every property of the store that does not depend on the tables that it writes
to. Which tables these are is said by the hypothesis of each lemma.
-/

namespace BotOps.Store

open BotOps.Metrics

variable {P : Store → Prop}

section

variable (counters : ∀ store rows, P store → P { store with counters := rows })
include counters

/-- Changing the counter writes to its table only. -/
theorem Statement.keeps_updateCounters (change : Tally → Tally) :
    Statement.Keeps P (Statement.updateCounters change) :=
  .bind (.content _ _) fun _ ↦ .bind .permit fun _ ↦ .modify fun store h ↦ counters store _ h

/-- To count questions keeps what does not depend on the counter. -/
theorem keeps_incrementQuestionsAsked (more : Int64) : Keeps P (incrementQuestionsAsked more) :=
  keeps_execute (Statement.keeps_updateCounters counters _)

private theorem keeps_takeWithin : Keeps P takeWithin :=
  .bind (keeps_execute Statement.keeps_questionsAsked) fun _ ↦
    .bind (keeps_execute (Statement.keeps_updateCounters counters _)) fun _ ↦ .pure _

/-- To take the questions asked does so too. -/
theorem keeps_takeQuestionsAsked : Keeps P takeQuestionsAsked :=
  keeps_transaction (keeps_takeWithin counters)

end

section

variable (graphs : ∀ store table, P store → P { store with graphs := table })
include graphs

/-- To add a column keeps what does not depend on the graph table. -/
theorem Statement.keeps_addColumn (column : String) :
    Statement.Keeps P (Statement.addColumn column) := by
  have hwrite (table : GraphTable) : Statement.Keeps P (do
      Statement.unlock
      modify fun store ↦ { store with graphs := some (table.withColumn column) }) :=
    .bind .unlock fun _ ↦ .modify fun store h ↦ graphs store _ h
  refine .bind (.content _ _) fun table ↦ ?_
  dsimp only
  split
  · exact .bind (.throw _) fun _ ↦ hwrite table
  · exact hwrite table

private theorem Statement.keeps_appendGraph (row : Nat → GraphRow) :
    Statement.Keeps P (Statement.appendGraph row) :=
  .bind (.content _ _) fun _ ↦ .bind .permit fun _ ↦
    .bind (.modify fun store h ↦ graphs store _ h) fun _ ↦ .pure _

/-- To write a sample keeps what does not depend on the graph table. -/
theorem keeps_insertSample (sample : Sample) : Keeps P (insertSample sample) := by
  refine keeps_execute (.bind (.content _ _) fun table ↦ ?_)
  split
  · exact .throw _
  · exact Statement.keeps_appendGraph graphs _

/-- To remove old ones does so too. -/
theorem keeps_pruneSamples (cutoff : Time.Instant) : Keeps P (pruneSamples cutoff) :=
  keeps_execute <| .bind (.content _ _) fun _ ↦ .bind .permit fun _ ↦
    .bind (.modify fun store h ↦ graphs store _ h) fun _ ↦ .pure _

/-- Recording a sample writes to the counter and to the graph table. -/
theorem keeps_recordSample (counters : ∀ store rows, P store → P { store with counters := rows })
    (sample : Sample) : Keeps P (recordSample sample) :=
  keeps_transaction (.bind (keeps_takeWithin counters) fun _ ↦
    .bind (keeps_insertSample graphs _) fun _ ↦ .pure _)

end

/-- Recording a migration writes to its table only. -/
theorem Statement.keeps_recordMigration
    (migrations : ∀ store names, P store → P { store with migrations := names }) (name : String) :
    Statement.Keeps P (Statement.recordMigration name) :=
  .bind Statement.keeps_migrationNames fun _ ↦ .bind .permit fun _ ↦
    .modify fun store h ↦ migrations store _ h

end BotOps.Store
