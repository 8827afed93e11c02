import BotOps.Proofs.Store.Credits
import BotOps.Proofs.Store.Migration
import BotOps.Proofs.Store.Samples
import Mathlib.Data.List.Nodup

/-!
# No failure leaves a trace

Whatever the store is like, an operation that writes to it and fails leaves it as it was:
`writes_allOrNothing`. Migrating and recording a sample may have changed the store before they fail,
and undo that.
-/

namespace BotOps.Store

open BotOps.Metrics

/-- Migrating fails exactly where some statement of its plan fails behind those that succeeded. -/
theorem run_migrate_error_iff {store : Store} {error : StoreError} :
    migrate.run store = (.error error, store) ↔
      ∃ done step rest reached, plan store = done ++ step :: rest ∧ Reaches done store reached ∧
        step reached = .error error := by
  rw [run_migrate]
  constructor
  · intro hrun
    obtain ⟨reached, hreached⟩ := exists_run_of_transaction_error hrun
    obtain ⟨done, step, rest, hplan, hdone, hfails⟩ := run_inTurn_error_iff.mp hreached
    exact ⟨done, step, rest, reached, hplan, hdone, hfails⟩
  · rintro ⟨done, step, rest, reached, hplan, hdone, hfails⟩
    exact run_transaction_error (run_inTurn_error_iff.mpr ⟨done, step, rest, hplan, hdone, hfails⟩)

/-- A sample that cannot be written is not recorded, and what was taken from the counter for it goes
back. -/
theorem run_recordSample_error {sample : Sample} {store emptied last : Store} {asked : Int64}
    {error : StoreError} (taken : takeWithin.run store = (.ok asked, emptied))
    (failed : (insertSample { sample with questionsAsked := asked }).run emptied =
      (.error error, last)) :
    (recordSample sample).run store = (.error error, store) := by
  have hrun : (do
      let asked ← takeWithin
      let sample := { sample with questionsAsked := asked }
      let _ ← insertSample sample
      return sample : Operation Sample).run store = (.error error, last) := by
    rw [run_bind_ok taken, run_bind_error failed]
  exact run_transaction_error hrun

/-- Each operation that writes to the store and fails leaves it as it was. Migrating fails with the
first statement of its plan that fails, whatever those before it have made of the store; and a
sample that cannot be written is not recorded, although the counter was set to 0 for it. -/
theorem writes_allOrNothing :
    AllOrNothing migrate ∧
    (∀ credit now, AllOrNothing (upsertCredit credit now)) ∧
    (∀ sample, AllOrNothing (insertSample sample)) ∧
    (∀ sample, AllOrNothing (recordSample sample)) ∧
    (∀ cutoff, AllOrNothing (pruneSamples cutoff)) ∧
    (∀ more, AllOrNothing (incrementQuestionsAsked more)) ∧
    AllOrNothing takeQuestionsAsked ∧
    (∀ store error, migrate.run store = (.error error, store) ↔
      ∃ done step rest reached, plan store = done ++ step :: rest ∧ Reaches done store reached ∧
        step reached = .error error) ∧
    ∀ sample store asked emptied error last,
      takeWithin.run store = (.ok asked, emptied) →
      (insertSample { sample with questionsAsked := asked }).run emptied = (.error error, last) →
      (recordSample sample).run store = (.error error, store) := by
  refine ⟨allOrNothing_transaction _, fun credit now ↦ allOrNothing_transaction _,
    fun sample ↦ allOrNothing_execute _, fun sample ↦ allOrNothing_transaction _,
    fun cutoff ↦ allOrNothing_execute _, fun more ↦ allOrNothing_execute _,
    allOrNothing_transaction _, fun store error ↦ run_migrate_error_iff, ?_⟩
  intro sample store asked emptied error last taken failed
  exact run_recordSample_error taken failed

/-- A store with questions asked, whose graph table has the last column of the migrations in another
spelling and lacks the others. -/
def respelt : Store :=
  { Store.empty with counters := some [.exact 7], graphs := some ⟨["Question_Count"], [], 0⟩ }

/-- Migrating makes all tables and records two migrations before its last statement but one fails,
and a sample empties the counter before it cannot be written. Nothing of that is left. -/
theorem writes_allOrNothing_respelt :
    let column := "question_count"
    let done := (plan respelt).take 17
    let reached := ((inTurn done).run respelt).2
    let emptied := { respelt with counters := some [.exact 0] }
    plan respelt = done ++ [.addColumn column, .recordMigration Migration.activity.name] ∧
      Reaches done respelt reached ∧
      reached.migrations = some [Migration.tables.name, Migration.latency.name] ∧
      Statement.addColumn column reached = .error (.duplicateColumn column) ∧
      migrate.run respelt = (.error (.duplicateColumn column), respelt) ∧
      takeWithin.run respelt = (.ok 7, emptied) ∧
      (recordSample default).run respelt =
        (.error (.unknownColumn Table.graphs.name "games"), respelt) := by
  intro column done reached emptied
  have hplan : plan respelt =
      done ++ [.addColumn column, .recordMigration Migration.activity.name] := rfl
  have hreached : Reaches done respelt reached := by
    have hdone : ((inTurn done).run respelt).1 = .ok () := by decide +kernel
    exact .of_run_inTurn (Prod.ext hdone rfl)
  have hfails : Statement.addColumn column reached = .error (.duplicateColumn column) := by
    rw [Statement.addColumn_apply]
    decide +kernel
  have htaken : takeWithin.run respelt = (.ok 7, emptied) := rfl
  obtain ⟨-, -, -, -, -, -, -, hmigrate, hrecord⟩ := writes_allOrNothing
  exact ⟨hplan, hreached, by decide +kernel, hfails,
    (hmigrate _ _).mpr ⟨done, _, _, reached, hplan, hreached, hfails⟩, htaken,
    hrecord default respelt 7 emptied _ emptied htaken rfl⟩

end BotOps.Store
