import BotOps.Proofs.Store.Migration
import BotOps.Proofs.Store.Samples
import BotOps.Proofs.Store.Writes

/-!
# The counter and the samples

A migrated store counts the questions asked in one row. What increments, takes and recorded samples
do to that row is told here exactly; all else that the jobs do to the store keeps it.
-/

namespace BotOps.Store

open BotOps.Metrics

/-- The counter of a store is one row with a whole number. -/
def HasCounter (n : Int64) (store : Store) : Prop := store.counters = some [.exact n]

instance (n : Int64) (store : Store) : Decidable (HasCounter n store) :=
  inferInstanceAs (Decidable (store.counters = some [.exact n]))

/-- A whole number fits in 64 bits with a sign. -/
def InRange (n : Int) : Prop := Int64.minValue.toInt ≤ n ∧ n ≤ Int64.maxValue.toInt

instance (n : Int) : Decidable (InRange n) :=
  inferInstanceAs (Decidable (Int64.minValue.toInt ≤ n ∧ n ≤ Int64.maxValue.toInt))

private theorem inRange_toInt (n : Int64) : InRange n.toInt := ⟨n.minValue_le_toInt, n.toInt_le⟩

/-- A sum in range is exact. -/
theorem addExact?_eq_some {a b : Int64} (h : InRange (a.toInt + b.toInt)) :
    ∃ sum, addExact? a b = some sum ∧ sum.toInt = a.toInt + b.toInt :=
  ⟨Int64.ofInt (a.toInt + b.toInt), if_pos h,
    Int64.toInt_ofInt_of_le h.1 (Int.lt_of_le_sub_one h.2)⟩

/-- One row counts what it counts. -/
theorem TallySum.of_singleton (n : Int64) : TallySum.of [.exact n] = .exact n := by
  obtain ⟨sum, hadd, hvalue⟩ : ∃ sum, addExact? 0 n = some sum ∧ sum.toInt = 0 + n.toInt :=
    addExact?_eq_some (by simpa using inRange_toInt n)
  have hn : sum = n := Int64.toInt_inj.mp (by omega)
  simp [TallySum.of, TallySum.add, hadd, hn]

section

variable {n : Int64} {store : Store}

namespace Statement

/-- A change to the counter fails if the store refuses it and changes the row otherwise. -/
theorem updateCounters_apply (h : HasCounter n store) (change : Tally → Tally) :
    updateCounters change store =
      match store.refusal? .update .counters none true none with
      | some error => .error error
      | none => .ok ((), { store with counters := some [change (.exact n)] }) := by
  have hrows : decide ([Tally.exact n] ≠ []) = true := by simp
  rw [updateCounters_of_some h, hrows]
  rfl

/-- The questions asked are those that the row counts. -/
theorem questionsAsked_apply (h : HasCounter n store) : questionsAsked store = .ok (n, store) := by
  rw [questionsAsked_of_some h, TallySum.of_singleton]

end Statement

/-- Counting more questions fails if the store refuses it and changes the row otherwise. -/
theorem run_incrementQuestionsAsked (h : HasCounter n store) (more : Int64) :
    (incrementQuestionsAsked more).run store =
      match store.refusal? .update .counters none true none with
      | some error => (.error error, store)
      | none => (.ok (), { store with counters := some [(Tally.exact n).add more] }) := by
  unfold incrementQuestionsAsked
  rw [run_execute, Statement.updateCounters_apply h]
  cases store.refusal? .update .counters none true none <;> rfl

/-- Taking the counter fails if the store refuses it; otherwise it gives the count and leaves 0. -/
theorem run_takeWithin (h : HasCounter n store) :
    takeWithin.run store =
      match store.refusal? .update .counters none true none with
      | some error => (.error error, store)
      | none => (.ok n, { store with counters := some [.exact 0] }) := by
  unfold takeWithin
  rw [run_bind_ok (run_execute_ok (Statement.questionsAsked_apply h)), run_bind, run_execute,
    Statement.updateCounters_apply h]
  cases store.refusal? .update .counters none true none <;> rfl

/-- Taking the questions needs no transaction around it if there is a counter. -/
theorem run_takeQuestionsAsked (h : HasCounter n store) :
    takeQuestionsAsked.run store = takeWithin.run store := by
  unfold takeQuestionsAsked
  rw [run_transaction, run_takeWithin h]
  cases store.refusal? .update .counters none true none <;> rfl

end

/-- Recording a sample either fails and leaves the store as it was, or moves the count into a new
row of the graph table and touches nothing else. -/
theorem HasCounter.recordSample_cases {n : Int64} {store : Store} (h : HasCounter n store)
    (sample : Sample) :
    (∃ error, (recordSample sample).run store = (.error error, store)) ∨
      ∃ table, store.graphs = some table ∧
        (recordSample sample).run store =
          (.ok { sample with questionsAsked := n },
            { store with
              counters := some [.exact 0]
              graphs := some (table.append fun id ↦
                .ofSample id { sample with questionsAsked := n }) }) := by
  rcases BotOps.Store.recordSample_cases sample store with
    ⟨error, hrun⟩ | ⟨tallies, asked, table, htakes, -, hrun⟩
  · exact .inl ⟨error, hrun⟩
  · obtain rfl : [.exact n] = tallies := Option.some.inj (h.symm.trans htakes.counters)
    obtain rfl : n = asked := TallySum.exact.inj ((TallySum.of_singleton n).symm.trans htakes.sum)
    exact .inr ⟨table, htakes.graphs, hrun⟩

section

variable {n : Int64}

/-- A table that is there is not made anew, and another table is not the counter. -/
theorem keeps_create (table : Table) : Statement.Keeps (HasCounter n) (Statement.create table) := by
  refine .create fun store hmissing h ↦ ?_
  cases table with
  | counters =>
    have hthere : store.has .counters = true := by rw [Store.has, h]; rfl
    exact Bool.noConfusion (hmissing.symm.trans hthere)
  | _ => exact h

/-- A counter that is there is not seeded again. -/
theorem keeps_seedCounter : Statement.Keeps (HasCounter n) Statement.seedCounter := by
  intro store a changed h hrun
  rw [Statement.seedCounter_of_some h] at hrun
  split at hrun
  · cases hrun
  · obtain ⟨-, rfl⟩ := Prod.mk.inj (Except.ok.inj hrun)
    rfl

/-- Migrating a store that has a counter leaves the counter alone. -/
theorem keeps_migrate : Keeps (HasCounter n) migrate :=
  keeps_migrate_of_steps keeps_create keeps_seedCounter
    (fun _ column _ ↦ Statement.keeps_addColumn (fun _ _ h ↦ h) column)
    (Statement.keeps_recordMigration fun _ _ h ↦ h)

end

end BotOps.Store
