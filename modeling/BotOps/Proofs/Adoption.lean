import BotOps.Proofs.Conservation
import BotOps.Proofs.Store.Adoption

/-!
# Migrating the store of an earlier program

A store that an earlier program left can be migrated, and then it has all tables and columns, all
old rows and a record of each migration. Whatever the bot and its jobs do later, migrating again
changes nothing: `migrate_adopts`.
-/

namespace BotOps.Questions

open BotOps.Billing BotOps.Config BotOps.Metrics BotOps.Store BotOps.Time

/-- What the bot and its jobs do, as opposed to other programs. -/
def Act.IsOwn {σ : Type} : Act σ → Prop
  | .other _ _ => False
  | _ => True

/-- A store records all migrations. -/
def RecordsAll (store : Store) : Prop :=
  ∃ names, store.migrations = some names ∧ ∀ migration : Migration, migration.name ∈ names

section

variable {σ : Type}

private theorem keeps_migrate_recordsAll : Keeps RecordsAll Store.migrate := by
  rintro store ⟨names, hnames, hall⟩
  rw [run_migrate_of_recorded hnames hall]
  exact ⟨names, hnames, hall⟩

/-- No act of the bot or its jobs removes the record of a migration. -/
theorem Act.recordsAll_perform (act : Act σ) (own : act.IsOwn) {setting : Setting σ}
    (h : RecordsAll setting.store) : RecordsAll (act.perform setting).2.store := by
  have hsettle {α : Type} {operation : Operation α} (entry : α → Ledger)
      (hkeeps : Keeps RecordsAll operation) :
      RecordsAll (settle operation entry setting).2.store := by
    rw [store_settle]
    exact hkeeps setting.store h
  cases act with
  | increment more => exact hsettle _ (keeps_incrementQuestionsAsked (fun _ _ h ↦ h) more)
  | take => exact hsettle _ (keeps_takeQuestionsAsked fun _ _ h ↦ h)
  | record sample => exact hsettle _ (keeps_recordSample (fun _ _ h ↦ h) (fun _ _ h ↦ h) sample)
  | measure settings probes clock =>
    have hkeeps : Job.Keeps RecordsAll (run settings probes clock) :=
      keeps_run (fun _ _ h ↦ h) (fun _ _ h ↦ h) settings probes clock
    exact hkeeps setting h
  | insert sample => exact hsettle _ (keeps_insertSample (fun _ _ h ↦ h) sample)
  | prune cutoff => exact hsettle _ (keeps_pruneSamples (fun _ _ h ↦ h) cutoff)
  | reconcile planId now source =>
    obtain ⟨credits, hstore⟩ := reconcile_frame planId now source setting
    rw [Act.perform, hstore]
    exact h
  | migrate => exact hsettle _ keeps_migrate_recordsAll
  | read query => exact hsettle _ (keeps_query query)
  | other change spares => exact own.elim

private theorem recordsAll_history (acts : List (Act σ)) (own : ∀ act ∈ acts, act.IsOwn)
    {setting : Setting σ} (h : RecordsAll setting.store) :
    RecordsAll (history acts setting).2.store := by
  induction acts generalizing setting with
  | nil => exact h
  | cons act acts ih =>
    exact ih (fun later hlater ↦ own later (List.mem_cons_of_mem _ hlater))
      (act.recordsAll_perform (own act List.mem_cons_self) h)

end

/-- What migrating makes of a store that an earlier program left. -/
structure Adopted (before after : Store) : Prop where
  /-- Each migration is recorded. -/
  names : appliedMigrations.run after =
    (.ok ["0001_init", "0002_add_graph_latency", "0003_add_graph_activity"], after)
  /-- The graph table has all columns of a sample, and its rows have 0 in those that it lacked. -/
  graphs : after.graphs = some ((graphTable before).withColumns (lacked before))
  columns : sampleColumns ⊆ graphColumns after
  /-- If all old rows have values of the right types, they are listed in the order of their dates
  with their old values. -/
  samples : (∀ row ∈ (graphTable before).rows, Readable (lacked before) row) →
    ∃ samples, listSamples.run after = (.ok samples, after) ∧
      List.Forall₂ (ReadFrom (lacked before)) (graphTable before).sorted samples
  /-- If one of them has not, the list fails because of a value of another type. -/
  unread : ∀ row ∈ (graphTable before).rows, ¬ Readable (lacked before) row →
    ∃ error, listSamples.run after = (.error error, after) ∧ error.IsUnread
  /-- A sample whose load is a number can be written, unless some row had the last number. -/
  insert : ∀ sample, (insertSample sample).run after =
    if greatestId ≤ (graphTable before).lastId then (.error .full, after)
    else if sample.cpu.isNaN then (.error (.missingValue (Table.graphs.name ++ ".cpu")), after)
    else
      (.ok ((graphTable before).lastId + 1),
        { after with
          graphs := some (((graphTable before).withColumns (lacked before)).append fun id ↦
            .ofSample id sample) })
  /-- The other tables are there with their rows. -/
  credits : after.credits = some (before.credits.getD [])
  clusters : after.clusters = some (before.clusters.getD [])
  shards : after.shards = some (before.shards.getD [])
  questions : after.questions = some (before.questions.getD 0)
  /-- The counter is seeded if it is empty and its table was not yet recorded. -/
  counters : after.counters =
    some (if Migration.tables.name ∉ recorded before ∧ before.counters.getD [] = [] then [.exact 0]
      else before.counters.getD [])
  guards : after.guards = before.guards

private theorem Adopted.of_older {store : Store} (older : Older store) :
    Adopted store (adopted store) where
  names := older.run_appliedMigrations
  graphs := rfl
  columns := sampleColumns_subset store
  samples := exists_run_listSamples_adopted
  unread _ := exists_run_listSamples_adopted_error
  insert := older.run_insertSample
  credits := rfl
  clusters := rfl
  shards := rfl
  questions := rfl
  counters := rfl
  guards := rfl

/-- Migrating the store of an earlier program succeeds and takes over all that it holds. Migrating
it once more changes nothing, whatever the bot and its jobs have done in between. -/
theorem migrate_adopts {store : Store} (older : Older store) :
    ∃ after, Store.migrate.run store = (.ok (), after) ∧ Adopted store after ∧
      ∀ {σ : Type} (acts : List (Act σ)) (setting : Setting σ), setting.store = after →
        (∀ act ∈ acts, act.IsOwn) →
        Store.migrate.run (history acts setting).2.store =
          (.ok (), (history acts setting).2.store) := by
  refine ⟨adopted store, older.run_migrate, .of_older older, ?_⟩
  intro σ acts setting hsetting own
  have hrecords : RecordsAll setting.store := by
    rw [hsetting]
    exact ⟨_, rfl, mem_names_adopted store⟩
  obtain ⟨names, hnames, hall⟩ := recordsAll_history acts own hrecords
  exact run_migrate_of_recorded hnames hall

/-- A store in which only the last migration is recorded, with its columns and one of another
migration in an order of their own, and with an empty counter. -/
def partialStore : Store :=
  { Store.empty with
    migrations := some ["0003_add_graph_activity"]
    credits := some [⟨none, "900", some "12", 1, "2020-01-01 00:00:00", "plan", 0, none, ""⟩]
    counters := some []
    graphs := some
      { added := ["question_count", "db_ping", "games", "kicks", "questions_asked", "commands"]
        rows := [
          .ofSample 3 ⟨"2024-01-15T00:00:00Z", .zero, ⟨5, 4, 3, 2, 1⟩, ⟨77, 88, 9⟩, 10, 11, 12, 13⟩,
          .ofSample 7 ⟨"2023", .zero, ⟨1, 2, 3, 4, 5⟩, ⟨66, 55, 8⟩, 7, 6, 5, 4⟩]
        lastId := 8 } }

private theorem older_partialStore : Older partialStore where
  unlocked := rfl
  columns table h := by
    obtain rfl := Option.some.inj h
    decide
  nodup := by decide
  names := by decide
  present migration hname := by
    cases migration with
    | tables => exact absurd hname (by decide)
    | latency => exact absurd hname (by decide)
    | activity => exact (by decide : Migration.activity.columns ⊆ graphColumns partialStore)
  free table := by cases table <;> rfl

/-- The store is migrated: its counter is seeded, the two latencies that it lacked are 0, and
migrating again after a few acts of the bot changes nothing. -/
theorem migrate_adopts_partialStore :
    Older partialStore ∧
    ∃ after, Store.migrate.run partialStore = (.ok (), after) ∧ Adopted partialStore after ∧
      after.counters = some [.exact 0] ∧
      listSamples.run after =
        (.ok [⟨"2023", .zero, ⟨1, 2, 3, 4, 5⟩, ⟨0, 0, 8⟩, 7, 6, 5, 4⟩,
          ⟨"2024-01-15T00:00:00Z", .zero, ⟨5, 4, 3, 2, 1⟩, ⟨0, 0, 9⟩, 10, 11, 12, 13⟩], after) ∧
      ∃ later, (history [.increment 3, .prune default, .take, .record (sampleOf .zero)]
          ⟨after, [], ()⟩).2.store = later ∧
        Store.migrate.run later = (.ok (), later) := by
  obtain ⟨after, hrun, hadopted, hagain⟩ := migrate_adopts older_partialStore
  refine ⟨older_partialStore, after, hrun, hadopted, hadopted.counters, ?_, _, rfl, ?_⟩
  · obtain rfl : adopted partialStore = after :=
      (Prod.mk.inj (older_partialStore.run_migrate.symm.trans hrun)).2
    have hsorted : (graphTable partialStore).sorted = (graphTable partialStore).rows.reverse := by
      simp [GraphTable.sorted, graphTable, partialStore, List.mergeSort, GraphRow.ofSample,
        Octets.ofString_le_ofString]
    rw [run_listSamples_adopted, hsorted]
    exact congrArg (Prod.mk · _) (by decide +kernel)
  · refine hagain _ _ rfl fun act hact ↦ ?_
    simp only [List.mem_cons, List.not_mem_nil, or_false] at hact
    rcases hact with rfl | rfl | rfl | rfl <;> trivial

/-- The tables of all migrations, none of which is recorded, with one old row and the greatest
number that a row ever had. -/
def unrecordedStore (row : GraphRow) (lastId : Nat) : Store :=
  { (Store.migrate.run Store.empty).2 with
    migrations := none
    graphs := some { added := laterColumns, rows := [row], lastId } }

private theorem older_unrecordedStore (row : GraphRow) (lastId : Nat) :
    Older (unrecordedStore row lastId) where
  unlocked := rfl
  columns table h := by
    obtain rfl := Option.some.inj h
    exact (by decide : laterColumns.Nodup ∧ laterColumns ⊆ laterColumns)
  nodup := List.nodup_nil
  names := List.nil_subset _
  present migration hname := absurd hname List.not_mem_nil
  free table := by cases table <;> rfl

/-- An old row with a latency below 0. -/
def negativeRow : GraphRow :=
  { GraphRow.ofSample 1 (sampleOf .zero) with platformPing := .integer (-5) }

/-- An old row with a text in a column of whole numbers. -/
def mistypedRow : GraphRow := { GraphRow.ofSample 1 (sampleOf .zero) with kicks := .octets "n/a" }

/-- An old row with the last number that a row can have. -/
def lastRow : GraphRow := .ofSample greatestId (sampleOf .zero)

/-- Not all old rows are read as they were, and not every table of them takes in new ones: a latency
below 0, which is kept, is read as 0; a text in place of a number cannot be read; and behind the
last number there is none for another row. -/
theorem not_all_adopted :
    (Older (unrecordedStore negativeRow 1) ∧
      "discord_ping" ∈ graphColumns (unrecordedStore negativeRow 1) ∧
      ∃ after samples, Store.migrate.run (unrecordedStore negativeRow 1) = (.ok (), after) ∧
        listSamples.run after = (.ok samples, after) ∧
        ∀ sample ∈ samples, (sample.latencies.platform.toNat : Int) ≠ -5) ∧
    (Older (unrecordedStore mistypedRow 1) ∧
      ∃ after, Store.migrate.run (unrecordedStore mistypedRow 1) = (.ok (), after) ∧
        listSamples.run after = (.error (.mistyped .text 10 "kicks"), after)) ∧
    (Older (unrecordedStore lastRow greatestId) ∧
      ∃ after, Store.migrate.run (unrecordedStore lastRow greatestId) = (.ok (), after) ∧
        (insertSample (sampleOf .zero)).run after = (.error .full, after)) := by
  have holder := older_unrecordedStore
  have hnegative : listSamples.run (adopted (unrecordedStore negativeRow 1)) =
      (.ok [sampleOf .zero], adopted (unrecordedStore negativeRow 1)) := by
    rw [run_listSamples_adopted]
    exact congrArg (Prod.mk · _) (by decide +kernel)
  refine ⟨⟨holder _ _, by decide, _, _, (holder _ _).run_migrate, hnegative, by decide⟩,
    ⟨holder _ _, _, (holder _ _).run_migrate, ?_⟩,
    ⟨holder _ _, _, (holder _ _).run_migrate, ?_⟩⟩
  · rw [run_listSamples_adopted]
    exact congrArg (Prod.mk · _) (by decide +kernel)
  · exact (holder _ _).run_insertSample _

end BotOps.Questions
