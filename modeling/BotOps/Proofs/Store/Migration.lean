import BotOps.Proofs.Store.Queries
import BotOps.Proofs.Store.Rollback

/-!
# What migrating will do

Which statements a store still needs can be told before the first of them is executed: `plan`. The
two ways of adding columns, the text of a migration and the filling in of those that an older
program left out, come to the same statements (`run_perform`), and no migration changes what another
one finds (`keeps_todo_expected`). So migrating executes the plan in turn, as one transaction:
`run_migrate`.
-/

namespace BotOps.Store

/-- The names of the recorded migrations, none if there is no table of them. -/
def recorded (store : Store) : List String := store.migrations.getD []

/-- The columns of the graph table, none if there is no such table. -/
def graphColumns (store : Store) : List String := (store.graphs.map GraphTable.columns).getD []

namespace Migration

/-- The statements of a migration for a graph table with some columns: the columns that it has are
not added again. -/
def steps (present : List String) : Migration → List (Statement Unit)
  | .tables =>
    [.create .credits, .create .clusters, .create .shards, .create .questions, .create .counters,
      .seedCounter, .create .graphs]
  | migration => (migration.columns.filter (· ∉ present)).map Statement.addColumn

/-- The statements with which a migration is performed and recorded, none if it is recorded. -/
def todo (names present : List String) (migration : Migration) : List (Statement Unit) :=
  if migration.name ∈ names then []
  else migration.steps present ++ [.recordMigration migration.name]

end Migration

/-- The statements that migrating a store executes. -/
def plan (store : Store) : List (Statement Unit) :=
  .create .migrations ::
    Migration.all.flatMap (Migration.todo (recorded store) (graphColumns store))

private theorem graphColumns_some {store : Store} {table : GraphTable}
    (h : store.graphs = some table) :
    graphColumns store = table.columns := by
  rw [graphColumns, h]
  rfl

/-- A column is added if there is a graph table that has none of its name, unless the store is
locked. -/
theorem Statement.addColumn_apply (column : String) (store : Store) :
    Statement.addColumn column store =
      match store.graphs with
      | none => .error (.missingTable Table.graphs.name)
      | some table =>
        if table.hasColumn column then .error (.duplicateColumn column)
        else if store.locked then .error .locked
        else .ok ((), { store with graphs := some (table.withColumn column) }) := by
  unfold addColumn
  cases hgraphs : store.graphs with
  | none => exact bind_error (content_none hgraphs) _
  | some table =>
    rw [bind_ok (content_some hgraphs)]
    dsimp only
    by_cases hcolumn : table.hasColumn column
    · rw [if_pos hcolumn, if_pos hcolumn]
      rfl
    · rw [if_neg hcolumn, if_neg hcolumn]
      change (unlock >>= _) store = _
      by_cases hlocked : store.locked
      · rw [if_pos hlocked]
        exact bind_error (by rw [unlock_apply, if_pos hlocked]) _
      · rw [if_neg hlocked]
        exact bind_ok (by rw [unlock_apply, if_neg hlocked]) _

/-- The rows of the counter after it was seeded. -/
def seeded (tallies : List Tally) : List Tally := if tallies = [] then [.exact 0] else tallies

/-- An empty counter is seeded, unless the store refuses it; one that has rows is left alone. -/
theorem Statement.seedCounter_of_some {store : Store} {tallies : List Tally}
    (h : store.counters = some tallies) :
    seedCounter store =
      match store.refusal? .insert .counters none (tallies = []) none with
      | some error => .error error
      | none => .ok ((), { store with counters := some (seeded tallies) }) := by
  unfold seedCounter seeded
  rw [bind_ok (content_some h)]
  cases hrefusal : store.refusal? .insert .counters none (tallies = []) none with
  | some error => exact bind_error (permit_some hrefusal) _
  | none =>
    rw [bind_ok (permit_none hrefusal)]
    by_cases hempty : tallies = []
    · rw [if_pos hempty, if_pos hempty]
      rfl
    · rw [if_neg hempty, if_neg hempty, ← h]
      rfl

/-- Why a store refuses the record of a migration, given those that it has. -/
def refusedRecord? (store : Store) (names : List String) (name : String) : Option StoreError :=
  store.refusal? .insert .migrations none true <|
    if name ∈ names then some (.duplicateKey [Table.migrations.name ++ ".name"]) else none

/-- A migration is recorded unless it already is or the store refuses it. -/
theorem Statement.recordMigration_of_some {store : Store} {names : List String}
    (h : store.migrations = some names) (name : String) :
    Statement.recordMigration name store =
      match refusedRecord? store names name with
      | some error => .error error
      | none => .ok ((), { store with migrations := some (names ++ [name]) }) := by
  have hread : migrationNames store = .ok (names, store) := content_some h
  unfold recordMigration
  rw [bind_ok hread]
  cases hrefusal : refusedRecord? store names name with
  | some error => exact bind_error (permit_some hrefusal) _
  | none => exact bind_ok (permit_none hrefusal) _

/-- Behind a column that was added the graph table has one more. -/
theorem graphColumns_addColumn {column : String} {store changed : Store}
    (h : Statement.addColumn column store = .ok ((), changed)) :
    graphColumns changed = graphColumns store ++ [column] := by
  rw [Statement.addColumn_apply] at h
  cases hgraphs : store.graphs with
  | none => simp [hgraphs] at h
  | some table =>
    simp only [hgraphs] at h
    split at h
    · cases h
    split at h
    · cases h
    · obtain rfl := (Prod.mk.inj (Except.ok.inj h)).2
      rw [graphColumns_some hgraphs, graphColumns_some rfl, GraphTable.columns, GraphTable.columns,
        GraphTable.withColumn, List.append_assoc]

/-- Reading the columns of the graph table. -/
theorem run_graphColumns (store : Store) :
    (execute Statement.graphColumns).run store = (.ok (graphColumns store), store) := rfl

namespace Migration

private theorem forM_cons {α : Type} (f : α → Operation Unit) (item : α) (items : List α) :
    (item :: items).forM f = (f item >>= fun _ ↦ items.forM f) := rfl

/-- Filling in columns adds those that are missing before the first one is added. -/
theorem run_fillIn {columns : List String} (distinct : columns.Nodup) (store : Store) :
    (columns.forM fun column ↦ do
        let present ← execute Statement.graphColumns
        if column ∉ present then execute (Statement.addColumn column) : Operation Unit).run store =
      (inTurn ((columns.filter (· ∉ graphColumns store)).map Statement.addColumn)).run store := by
  induction columns generalizing store with
  | nil => rfl
  | cons column columns ih =>
    obtain ⟨hcolumn, hrest⟩ := List.nodup_cons.mp distinct
    rw [forM_cons, run_bind, run_bind_ok (run_graphColumns store)]
    by_cases hpresent : column ∈ graphColumns store
    · rw [if_neg (not_not_intro hpresent), List.filter_cons_of_neg (by simpa using hpresent)]
      exact ih hrest store
    · rw [if_pos hpresent, List.filter_cons_of_pos (by simpa using hpresent), List.map_cons,
        inTurn_cons, run_bind]
      cases hadd : Statement.addColumn column store with
      | error error => rw [run_execute_error hadd]
      | ok reached =>
        obtain ⟨⟨⟩, changed⟩ := reached
        rw [run_execute_ok hadd]
        dsimp only
        rw [ih hrest changed, graphColumns_addColumn hadd]
        -- The column that was added is none of the others.
        have hsame : columns.filter (· ∉ graphColumns store ++ [column]) =
            columns.filter (· ∉ graphColumns store) := by
          refine List.filter_congr fun other hother ↦ ?_
          have hne : other ≠ column := fun heq ↦ hcolumn (heq ▸ hother)
          simp [hne]
        rw [hsame]

/-- A migration adds each column once. -/
theorem nodup_columns (migration : Migration) : migration.columns.Nodup := by
  cases migration <;> decide

/-- The text of the first migration executes its statements in turn. -/
theorem run_script_tables (present : List String) (store : Store) :
    (script .tables).run store = (inTurn (Migration.tables.steps present)).run store := by
  have hsteps : Migration.tables.steps present =
      [Table.credits, .clusters, .shards, .questions, .counters].map Statement.create ++
        [.seedCounter, .create .graphs] := rfl
  have hrest (reached : Store) :
      (execute Statement.seedCounter >>= fun _ ↦ execute (Statement.create .graphs)).run reached =
        (inTurn [.seedCounter, .create .graphs]).run reached := by
    rw [inTurn_cons, run_bind, run_bind]
    rcases (execute Statement.seedCounter).run reached with ⟨error | ⟨⟨⟩⟩, seeded⟩
    · rfl
    · exact (run_inTurn_singleton _ seeded).symm
  change (inTurn ([Table.credits, .clusters, .shards, .questions, .counters].map
    Statement.create) >>= fun _ ↦ execute Statement.seedCounter >>= fun _ ↦
      execute (Statement.create .graphs)).run store = _
  rw [hsteps, inTurn_append, run_bind, run_bind]
  rcases (inTurn ([Table.credits, .clusters, .shards, .questions, .counters].map
    Statement.create)).run store with ⟨error | ⟨⟨⟩⟩, reached⟩
  · rfl
  · exact hrest reached

/-- Both ways of performing a migration execute its statements in turn. -/
theorem run_perform (migration : Migration) (store : Store) :
    migration.perform.run store =
      (inTurn (migration.steps (graphColumns store))).run store := by
  have hcolumns (h : migration.columns ≠ []) :
      migration.steps (graphColumns store) =
        (migration.columns.filter (· ∉ graphColumns store)).map Statement.addColumn := by
    cases migration with
    | tables => exact absurd rfl h
    | latency => rfl
    | activity => rfl
  unfold perform
  rw [run_bind_ok (run_graphColumns store)]
  by_cases hany : migration.columns.any (· ∈ graphColumns store)
  · have hne : migration.columns ≠ [] := by
      intro hnil
      simp [hnil] at hany
    rw [if_pos hany, hcolumns hne]
    exact run_fillIn migration.nodup_columns store
  · rw [if_neg hany]
    have hall : migration.columns.filter (· ∉ graphColumns store) = migration.columns := by
      rw [List.filter_eq_self]
      intro column hcolumn
      simp only [List.any_eq_true, decide_eq_true_eq, not_exists, not_and] at hany
      exact decide_eq_true (hany column hcolumn)
    cases migration with
    | tables => exact run_script_tables _ store
    | latency =>
      rw [hcolumns (by decide), hall]
      rfl
    | activity =>
      rw [hcolumns (by decide), hall]
      rfl

/-- A migration is performed and recorded by its statements unless it is recorded. -/
theorem run_apply {store : Store} {names : List String} (h : store.migrations = some names)
    (migration : Migration) :
    migration.apply.run store =
      (inTurn (migration.todo names (graphColumns store))).run store := by
  have hread : Statement.migrationNames store = .ok (names, store) := Statement.content_some h
  unfold apply todo
  rw [run_bind_ok (run_execute_ok hread)]
  by_cases hname : migration.name ∈ names
  · rw [if_neg (not_not_intro hname), if_pos hname]
    rfl
  · rw [if_pos hname, if_neg hname, inTurn_append, run_bind, run_bind, run_perform]
    rcases (inTurn (migration.steps (graphColumns store))).run store with ⟨error | ⟨⟨⟩⟩, changed⟩
    · rfl
    · exact (run_inTurn_singleton _ changed).symm

/-- A store is as some migrations expect it: it tells which of them are recorded and which of their
columns are there. -/
structure Expected (migrations : List Migration) (names present : List String) (store : Store) :
    Prop where
  names : ∃ recorded, store.migrations = some recorded ∧
    ∀ migration ∈ migrations, (migration.name ∈ recorded ↔ migration.name ∈ names)
  columns : ∀ migration ∈ migrations, ∀ column ∈ migration.columns,
    (column ∈ graphColumns store ↔ column ∈ present)

section

variable {migrations : List Migration} {names present : List String}

/-- What a migration has to do depends only on what it expects. -/
theorem Expected.todo_eq {store : Store} (h : Expected migrations names present store)
    {migration : Migration} (hmem : migration ∈ migrations) :
    ∃ recorded, store.migrations = some recorded ∧
      migration.todo recorded (graphColumns store) = migration.todo names present := by
  obtain ⟨recorded, hrecorded, hnames⟩ := h.names
  refine ⟨recorded, hrecorded, ?_⟩
  have hsteps : migration.steps (graphColumns store) = migration.steps present := by
    have hfilter : migration.columns.filter (· ∉ graphColumns store) =
        migration.columns.filter (· ∉ present) := by
      refine List.filter_congr fun column hcolumn ↦ ?_
      rw [decide_eq_decide]
      exact not_congr (h.columns migration hmem column hcolumn)
    cases migration with
    | tables => rfl
    | latency => exact congrArg (List.map Statement.addColumn) hfilter
    | activity => exact congrArg (List.map Statement.addColumn) hfilter
  simp only [todo, hsteps, hnames migration hmem]

private theorem Expected.mono {store : Store} {others : List Migration}
    (h : Expected migrations names present store) (hsubset : others ⊆ migrations) :
    Expected others names present store := by
  obtain ⟨recorded, hrecorded, hnames⟩ := h.names
  exact ⟨⟨recorded, hrecorded, fun migration hmem ↦ hnames migration (hsubset hmem)⟩,
    fun migration hmem ↦ h.columns migration (hsubset hmem)⟩

/-- Making a table is nothing that a migration expects, for the columns that come with the graph
table are not those of a migration. -/
theorem keeps_create_expected {table : Table} (h : table ≠ .migrations) :
    Statement.Keeps (Expected migrations names present) (Statement.create table) := by
  refine .create fun store hmissing hstore ↦ ?_
  cases table with
  | migrations => exact absurd rfl h
  | graphs =>
    refine ⟨hstore.names, fun migration hmem column hcolumn ↦ ?_⟩
    rw [← hstore.columns migration hmem column hcolumn]
    have hnone : store.graphs = none := by
      simpa [Store.has] using hmissing
    have hnew : column ∉ createdColumns := by
      revert column
      cases migration <;> decide
    simp [graphColumns, Store.withNew, hnone, GraphTable.columns, hnew]
  | _ => exact ⟨hstore.names, hstore.columns⟩

private theorem keeps_seedCounter_expected :
    Statement.Keeps (Expected migrations names present) Statement.seedCounter := by
  refine .bind (.content _ _) fun tallies ↦ .bind .permit fun _ ↦ ?_
  split
  · exact .modify fun _ hstore ↦ ⟨hstore.names, hstore.columns⟩
  · exact .pure _

/-- A column of one migration is not one of another. -/
theorem eq_of_mem_columns {first second : Migration} {column : String}
    (hfirst : column ∈ first.columns) (hsecond : column ∈ second.columns) : first = second := by
  revert column
  cases first <;> cases second <;> decide

/-- Migrations are told apart by their names. -/
theorem eq_of_name_eq {first second : Migration} (h : first.name = second.name) :
    first = second := by
  revert h
  cases first <;> cases second <;> decide

/-- Adding a column of one migration is nothing that others expect. -/
theorem keeps_addColumn_expected {migration : Migration} (h : migration ∉ migrations)
    {column : String} (hcolumn : column ∈ migration.columns) :
    Statement.Keeps (Expected migrations names present) (Statement.addColumn column) := by
  intro store answer changed hstore hrun
  have hcolumns := graphColumns_addColumn hrun
  have hnames : changed.migrations = store.migrations := by
    rw [Statement.addColumn_apply] at hrun
    cases hgraphs : store.graphs with
    | none => simp [hgraphs] at hrun
    | some table =>
      simp only [hgraphs] at hrun
      split at hrun
      · cases hrun
      split at hrun
      · cases hrun
      · obtain rfl := (Prod.mk.inj (Except.ok.inj hrun)).2
        rfl
  refine ⟨hnames ▸ hstore.names, fun other hother expected hexpected ↦ ?_⟩
  have hne : expected ≠ column := by
    rintro rfl
    exact h (eq_of_mem_columns hcolumn hexpected ▸ hother)
  rw [← hstore.columns other hother expected hexpected, hcolumns]
  simp [hne]

/-- Recording one migration is nothing that others expect. -/
theorem keeps_recordMigration_expected {migration : Migration} (h : migration ∉ migrations) :
    Statement.Keeps (Expected migrations names present)
      (Statement.recordMigration migration.name) := by
  intro store answer changed hstore hrun
  obtain ⟨recorded, hrecorded, hexpected⟩ := hstore.names
  rw [Statement.recordMigration_of_some hrecorded] at hrun
  split at hrun
  · cases hrun
  · obtain rfl := (Prod.mk.inj (Except.ok.inj hrun)).2
    refine ⟨⟨_, rfl, fun other hother ↦ ?_⟩, hstore.columns⟩
    have hne : other.name ≠ migration.name := fun heq ↦ h (eq_of_name_eq heq ▸ hother)
    rw [← hexpected other hother]
    simp [hne]

/-- What one migration has to do is nothing that others expect. -/
theorem keeps_todo_expected {migration : Migration} (h : migration ∉ migrations)
    (others columns : List String) :
    Keeps (Expected migrations names present) (inTurn (migration.todo others columns)) := by
  have hcolumns : Keeps (Expected migrations names present)
      (inTurn ((migration.columns.filter (· ∉ columns)).map Statement.addColumn)) := by
    refine keeps_inTurn fun step hstep ↦ ?_
    obtain ⟨column, hcolumn, rfl⟩ := List.mem_map.mp hstep
    exact keeps_addColumn_expected h (List.mem_filter.mp hcolumn).1
  unfold todo
  split
  · exact .pure ()
  · rw [inTurn_append]
    refine .bind ?_ fun _ ↦ keeps_inTurn ?_
    · cases migration with
      | tables =>
        refine keeps_inTurn ?_
        simp only [steps, List.forall_mem_cons, List.not_mem_nil, false_imp_iff, implies_true,
          and_true]
        exact ⟨keeps_create_expected (by decide), keeps_create_expected (by decide),
          keeps_create_expected (by decide), keeps_create_expected (by decide),
          keeps_create_expected (by decide), keeps_seedCounter_expected,
          keeps_create_expected (by decide)⟩
      | latency => exact hcolumns
      | activity => exact hcolumns
    · simpa using keeps_recordMigration_expected h

/-- Migrations that find what they expect execute what they have to do in turn. -/
theorem run_forM_apply (distinct : migrations.Nodup) {store : Store}
    (h : Expected migrations names present store) :
    (migrations.forM apply).run store =
      (inTurn (migrations.flatMap (todo names present))).run store := by
  induction migrations generalizing store with
  | nil => rfl
  | cons migration migrations ih =>
    obtain ⟨hmigration, hrest⟩ := List.nodup_cons.mp distinct
    obtain ⟨recorded, hrecorded, htodo⟩ := h.todo_eq List.mem_cons_self
    rw [forM_cons, List.flatMap_cons, inTurn_append, run_bind, run_bind, run_apply hrecorded, htodo]
    have hkeeps := keeps_todo_expected hmigration names present store
      (h.mono fun _ ↦ List.mem_cons_of_mem _)
    rcases hrun : (inTurn (todo names present migration)).run store with ⟨error | ⟨⟨⟩⟩, changed⟩
    · rfl
    · rw [hrun] at hkeeps
      exact ih hrest hkeeps

end

end Migration

/-- Behind the table of migrations the migrations find what the store has. -/
theorem expected_create {store changed : Store}
    (h : Statement.create .migrations store = .ok ((), changed)) :
    Migration.Expected Migration.all (recorded store) (graphColumns store) changed := by
  rw [Statement.create_apply] at h
  cases hnames : store.migrations with
  | none =>
    have hhas : ¬ store.has .migrations = true := by simp [Store.has, hnames]
    rw [if_neg hhas] at h
    split at h
    · cases h
    · obtain rfl := (Prod.mk.inj (Except.ok.inj h)).2
      exact ⟨⟨[], rfl, by simp [recorded, hnames]⟩, fun _ _ _ _ ↦ Iff.rfl⟩
  | some names =>
    have hhas : store.has .migrations = true := by simp [Store.has, hnames]
    rw [if_pos hhas] at h
    obtain rfl := (Prod.mk.inj (Except.ok.inj h)).2
    exact ⟨⟨names, hnames, by simp [recorded, hnames]⟩, fun _ _ _ _ ↦ Iff.rfl⟩

/-- Migrating executes its plan in turn and undoes it if a statement fails. -/
theorem run_migrate (store : Store) :
    migrate.run store = (transaction (inTurn (plan store))).run store := by
  unfold migrate plan
  rw [run_transaction, run_transaction, inTurn_cons]
  cases hcreate : Statement.create .migrations store with
  | error error =>
    rw [run_bind_error (run_execute_error hcreate), run_bind_error (run_execute_error hcreate)]
  | ok reached =>
    obtain ⟨⟨⟩, changed⟩ := reached
    rw [run_bind_ok (run_execute_ok hcreate), run_bind_ok (run_execute_ok hcreate),
      Migration.run_forM_apply (by decide) (expected_create hcreate)]

/-- Each statement of a plan creates a table, seeds the counter, adds a later column or records a
migration. -/
theorem forall_mem_plan {p : Statement Unit → Prop} (create : ∀ table, p (Statement.create table))
    (seed : p Statement.seedCounter)
    (add : ∀ (migration : Migration), ∀ column ∈ migration.columns, p (Statement.addColumn column))
    (record : ∀ name, p (Statement.recordMigration name)) (store : Store) :
    ∀ step ∈ plan store, p step := by
  have hsteps (present : List String) (migration : Migration) :
      ∀ step ∈ migration.steps present, p step := by
    have hcolumns : ∀ step ∈ (migration.columns.filter (· ∉ present)).map Statement.addColumn,
        p step := by
      intro step hstep
      obtain ⟨column, hcolumn, rfl⟩ := List.mem_map.mp hstep
      exact add migration column (List.mem_filter.mp hcolumn).1
    cases migration with
    | tables =>
      simp only [Migration.steps, List.forall_mem_cons, List.not_mem_nil, false_imp_iff,
        implies_true, and_true]
      exact ⟨create _, create _, create _, create _, create _, seed, create _⟩
    | latency => exact hcolumns
    | activity => exact hcolumns
  refine List.forall_mem_cons.mpr ⟨create .migrations, fun step hstep ↦ ?_⟩
  obtain ⟨migration, -, htodo⟩ := List.mem_flatMap.mp hstep
  unfold Migration.todo at htodo
  split at htodo
  · cases htodo
  · rcases List.mem_append.mp htodo with hstep | hstep
    · exact hsteps _ migration step hstep
    · rw [List.mem_singleton.mp hstep]
      exact record _

/-- Migrating keeps what its statements keep. -/
theorem keeps_migrate_of_steps {P : Store → Prop}
    (create : ∀ table, Statement.Keeps P (Statement.create table))
    (seed : Statement.Keeps P Statement.seedCounter)
    (add : ∀ (migration : Migration), ∀ column ∈ migration.columns,
      Statement.Keeps P (Statement.addColumn column))
    (record : ∀ name, Statement.Keeps P (Statement.recordMigration name)) : Keeps P migrate := by
  intro store
  rw [run_migrate]
  exact keeps_transaction (keeps_inTurn (forall_mem_plan create seed add record store)) store

end BotOps.Store
