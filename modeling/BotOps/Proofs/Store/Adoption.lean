import BotOps.Proofs.Store.Migration
import BotOps.Proofs.Store.DateOrder
import Mathlib.Data.List.Nodup

/-!
# Taking over the stores of earlier programs

Programs of an earlier time left graph tables with some of the columns that migrations add, and
stores with some of the tables and records. Migrating such a store always succeeds, and what comes
of it is told by one equation: `Older.run_migrate`. Where all migrations are recorded nothing
happens: `run_migrate_of_recorded`.
-/

namespace BotOps.Store

open BotOps.Metrics

/-- The columns that migrations add to the graph table. -/
def laterColumns : List String := Migration.all.flatMap Migration.columns

/-- What a migration leaves behind is there: all tables, or its columns of the graph table. -/
def Migration.Present (store : Store) : Migration → Prop
  | .tables => ∀ table, store.has table
  | migration => migration.columns ⊆ graphColumns store

/-- A store that an earlier program may have left. Its graph table has some of the later columns in
some order, the migrations that it records are there, and no guard forbids new rows. It was not
opened only to be read. -/
structure Older (store : Store) : Prop where
  unlocked : store.locked = false
  columns : ∀ table, store.graphs = some table → table.added.Nodup ∧ table.added ⊆ laterColumns
  nodup : (recorded store).Nodup
  names : recorded store ⊆ Migration.all.map Migration.name
  present : ∀ migration : Migration, migration.name ∈ recorded store → migration.Present store
  free : ∀ table, store.guard? .insert table none = none

/-- The later columns that a store lacks. -/
def lacked (store : Store) : List String := laterColumns.filter (· ∉ graphColumns store)

/-- The names of the migrations that a store does not record. -/
def unrecorded (store : Store) : List String :=
  (Migration.all.map Migration.name).filter (· ∉ recorded store)

/-- A graph table with more columns, in which all rows have 0. -/
def GraphTable.withColumns (table : GraphTable) (columns : List String) : GraphTable :=
  { table with
    added := table.added ++ columns
    rows := table.rows.map fun row ↦ row.zeroed columns }

/-- The graph table of a store, an empty one if there is none. -/
def graphTable (store : Store) : GraphTable := store.graphs.getD ⟨[], [], 0⟩

/-- A store with all tables, the new ones empty save for the seed of the counter. -/
def completed (store : Store) : Store :=
  { store with
    credits := some (store.credits.getD [])
    clusters := some (store.clusters.getD [])
    shards := some (store.shards.getD [])
    questions := some (store.questions.getD 0)
    counters := some (seeded (store.counters.getD []))
    graphs := some (graphTable store) }

/-- The rows of the counter after migrating: an empty counter is seeded along with the tables. -/
def adoptedCounters (store : Store) : List Tally :=
  if Migration.tables.name ∉ recorded store ∧ store.counters.getD [] = [] then [.exact 0]
  else store.counters.getD []

/-- What migrating makes of the store of an earlier program. -/
def adopted (store : Store) : Store :=
  { store with
    migrations := some (recorded store ++ unrecorded store)
    credits := some (store.credits.getD [])
    clusters := some (store.clusters.getD [])
    shards := some (store.shards.getD [])
    questions := some (store.questions.getD 0)
    counters := some (adoptedCounters store)
    graphs := some ((graphTable store).withColumns (lacked store)) }

/-- The whole number that an old row has in a later column, 0 if the table lacked the column. -/
def oldValue (missing : List String) (column : String) (cell : Cell) : Option Int :=
  if column ∈ missing then some 0 else cell.integer?.map Int64.toInt

/-- A sample has the values of a row of a table that lacked some columns, and 0 for these. A sample
has no numbers below 0 for latencies and reports; those are 0 as well. -/
structure ReadFrom (missing : List String) (row : GraphRow) (sample : Sample) : Prop where
  entryDate : row.entryDate = sample.entryDate
  cpu : row.cpu.real? = some sample.cpu
  users : row.population.users = sample.population.users
  servers : row.population.servers = sample.population.servers
  channels : row.population.channels = sample.population.channels
  memory : row.population.memory = sample.population.memory
  games : oldValue missing "games" row.population.games = some sample.population.games.toInt
  platform : (oldValue missing "discord_ping" row.platformPing).map (max 0) =
    some (sample.latencies.platform.toNat : Int)
  internal : (oldValue missing "trivia_api_ping" row.internalPing).map (max 0) =
    some (sample.latencies.internal.toNat : Int)
  database : (oldValue missing "db_ping" row.databasePing).map (max 0) =
    some (sample.latencies.database.toNat : Int)
  kicks : (oldValue missing "kicks" row.kicks).map (max 0) = some (sample.kicks.toNat : Int)
  commands : (oldValue missing "commands" row.commands).map (max 0) =
    some (sample.commands.toNat : Int)
  questionsAsked : oldValue missing "questions_asked" row.questionsAsked =
    some sample.questionsAsked.toInt
  questionCount : oldValue missing "question_count" row.questionCount =
    some sample.questionCount.toInt

/-- The cells of a row in the columns of whole numbers. -/
def GraphRow.integers (row : GraphRow) : List (String × Cell) :=
  [("user_count", row.population.users), ("server_count", row.population.servers),
    ("channel_count", row.population.channels), ("memory_usage", row.population.memory),
    ("games", row.population.games), ("discord_ping", row.platformPing),
    ("trivia_api_ping", row.internalPing), ("db_ping", row.databasePing), ("kicks", row.kicks),
    ("commands", row.commands), ("questions_asked", row.questionsAsked),
    ("question_count", row.questionCount)]

/-- A row of a table that lacked some columns has values of the right types in all others: a text in
UTF-8 for the date, a number for the load, and whole numbers elsewhere. -/
structure Readable (missing : List String) (row : GraphRow) : Prop where
  entryDate : ∃ date : String, row.entryDate = date
  cpu : row.cpu.real?.isSome
  integers : ∀ cell ∈ row.integers, cell.1 ∉ missing → cell.2.integer?.isSome

section Columns

/-- The names that the graph table may have are told apart in any case. -/
theorem sameColumn_iff : ∀ a ∈ createdColumns ++ laterColumns, ∀ b ∈ createdColumns ++ laterColumns,
    (sameColumn a b = true ↔ a = b) := by
  decide +kernel

/-- A known column is among others under some name if it is among them. -/
theorem any_sameColumn_iff {columns : List String}
    (known : columns ⊆ createdColumns ++ laterColumns) {column : String}
    (h : column ∈ createdColumns ++ laterColumns) :
    columns.any (sameColumn column) = true ↔ column ∈ columns := by
  rw [List.any_eq_true]
  constructor
  · rintro ⟨other, hother, hsame⟩
    rwa [(sameColumn_iff column h other (known hother)).mp hsame]
  · exact fun hcolumn ↦ ⟨column, hcolumn, decide_eq_true rfl⟩

/-- Columns may be set to 0 in two steps. -/
theorem zeroed_zeroed (row : GraphRow) (first second : List String) :
    (row.zeroed first).zeroed second = row.zeroed (first ++ second) := by
  have hvalue (column : String) (cell : Cell) :
      (if second.any (sameColumn column) then .integer 0
        else if first.any (sameColumn column) then .integer 0 else cell) =
      if (first ++ second).any (sameColumn column) then .integer 0 else cell := by
    rw [List.any_append]
    cases first.any (sameColumn column) <;> cases second.any (sameColumn column) <;> rfl
  unfold GraphRow.zeroed
  simp only [hvalue]

section

variable {missing : List String} {column : String}

/-- A cell of a later column has 0 in a row that was filled up. -/
theorem integer?_filled (later : missing ⊆ laterColumns) (hcolumn : column ∈ laterColumns)
    (cell : Cell) :
    (if missing.any (sameColumn column) then Cell.integer 0 else cell).integer?.map Int64.toInt =
      oldValue missing column cell := by
  have hany : missing.any (sameColumn column) = true ↔ column ∈ missing :=
    any_sameColumn_iff (List.subset_append_of_subset_right _ later)
      (List.mem_append_right _ hcolumn)
  unfold oldValue
  by_cases h : column ∈ missing
  · rw [if_pos h, if_pos (hany.mpr h)]
    rfl
  · rw [if_neg h, if_neg (mt hany.mp h)]

/-- A cell has a whole number just if that is its value. -/
theorem eq_integer_iff {cell : Cell} {n : Int64} :
    cell = .integer n ↔ cell.integer?.map Int64.toInt = some n.toInt := by
  cases cell <;> simp [Cell.integer?, Int64.toInt_inj]

/-- A number without a sign is read of a whole number with its value, or of one below 0. -/
theorem map_unsigned_eq_some_iff {cell : Cell} {n : UInt64} :
    cell.integer?.map unsigned = some n ↔
      (cell.integer?.map Int64.toInt).map (max 0) = some (n.toNat : Int) := by
  cases cell.integer? with
  | none => simp
  | some value =>
    simp only [Option.map_some, Option.some.injEq, ← toNat_unsigned, Int.natCast_inj,
      UInt64.toNat_inj]

/-- A row with 0 in columns that were missing is read with its old values. -/
theorem read_zeroed_eq_ok_iff (later : missing ⊆ laterColumns) {row : GraphRow} {sample : Sample} :
    (row.zeroed missing).read = .ok sample ↔ ReadFrom missing row sample := by
  have hsigned {column : String} (hcolumn : column ∈ laterColumns) {cell : Cell} {n : Int64} :
      (if missing.any (sameColumn column) then Cell.integer 0 else cell) = .integer n ↔
        oldValue missing column cell = some n.toInt := by
    rw [eq_integer_iff, integer?_filled later hcolumn]
  have hunsigned {column : String} (hcolumn : column ∈ laterColumns) {cell : Cell} {n : UInt64} :
      (if missing.any (sameColumn column) then Cell.integer 0 else cell).integer?.map unsigned =
          some n ↔
        (oldValue missing column cell).map (max 0) = some (n.toNat : Int) := by
    rw [map_unsigned_eq_some_iff, integer?_filled later hcolumn]
  rw [GraphRow.read_eq_ok_iff]
  constructor
  · rintro ⟨hdate, hcpu, hpopulation, hplatform, hinternal, hdatabase, hkicks, hcommands, hasked,
      hcount⟩
    obtain ⟨husers, hservers, hchannels, hmemory, hgames⟩ := PopulationCells.mk.inj hpopulation
    exact ⟨hdate, hcpu, husers, hservers, hchannels, hmemory, (hsigned (by decide)).mp hgames,
      (hunsigned (by decide)).mp hplatform, (hunsigned (by decide)).mp hinternal,
      (hunsigned (by decide)).mp hdatabase, (hunsigned (by decide)).mp hkicks,
      (hunsigned (by decide)).mp hcommands, (hsigned (by decide)).mp hasked,
      (hsigned (by decide)).mp hcount⟩
  · rintro ⟨hdate, hcpu, husers, hservers, hchannels, hmemory, hgames, hplatform, hinternal,
      hdatabase, hkicks, hcommands, hasked, hcount⟩
    have hpopulation : (row.zeroed missing).population = sample.population :=
      (PopulationCells.mk.injEq ..).mpr
        ⟨husers, hservers, hchannels, hmemory, (hsigned (by decide)).mpr hgames⟩
    exact ⟨hdate, hcpu, hpopulation, (hunsigned (by decide)).mpr hplatform,
      (hunsigned (by decide)).mpr hinternal, (hunsigned (by decide)).mpr hdatabase,
      (hunsigned (by decide)).mpr hkicks, (hunsigned (by decide)).mpr hcommands,
      (hsigned (by decide)).mpr hasked, (hsigned (by decide)).mpr hcount⟩

/-- An old row has a whole number in a column that was missing or has one. -/
theorem isSome_oldValue_iff {cell : Cell} :
    (oldValue missing column cell).isSome ↔ (column ∉ missing → cell.integer?.isSome) := by
  unfold oldValue
  by_cases h : column ∈ missing <;> simp [h]

private theorem exists_oldValue {cell : Cell} (h : (oldValue missing column cell).isSome) :
    ∃ n : Int64, oldValue missing column cell = some n.toInt := by
  unfold oldValue at h ⊢
  by_cases hmissing : column ∈ missing
  · exact ⟨0, if_pos hmissing⟩
  · rw [if_neg hmissing] at h ⊢
    obtain ⟨n, hn⟩ := Option.isSome_iff_exists.mp (by simpa using h)
    exact ⟨n, by rw [hn]; rfl⟩

private theorem exists_unsigned_oldValue {cell : Cell} (h : (oldValue missing column cell).isSome) :
    ∃ n : UInt64, (oldValue missing column cell).map (max 0) = some (n.toNat : Int) := by
  obtain ⟨n, hn⟩ := exists_oldValue h
  exact ⟨unsigned n, by rw [hn, toNat_unsigned]; rfl⟩

/-- A row has values of the right types just if they are those of some sample. -/
theorem readable_iff (later : missing ⊆ laterColumns) {row : GraphRow} :
    Readable missing row ↔ ∃ sample, ReadFrom missing row sample := by
  have hcreated : ∀ column ∈ createdColumns, column ∉ laterColumns := by decide
  have hthere {column : String} (hcolumn : column ∈ createdColumns) : column ∉ missing :=
    fun hmem ↦ hcreated column hcolumn (later hmem)
  constructor
  · rintro ⟨⟨date, hdate⟩, hcpu, hintegers⟩
    have hinteger {column : String} {cell : Cell} (hcolumn : column ∈ createdColumns)
        (h : column ∉ missing → cell.integer?.isSome) : ∃ n, cell = .integer n :=
      (Option.isSome_iff_exists.mp (h (hthere hcolumn))).imp fun _ ↦ Cell.integer?_eq_some_iff.mp
    have hsigned {column : String} {cell : Cell} (h : column ∉ missing → cell.integer?.isSome) :=
      exists_oldValue (isSome_oldValue_iff.mpr h)
    have hunsigned {column : String} {cell : Cell} (h : column ∉ missing → cell.integer?.isSome) :=
      exists_unsigned_oldValue (isSome_oldValue_iff.mpr h)
    simp only [GraphRow.integers, List.forall_mem_cons] at hintegers
    obtain ⟨husers, hservers, hchannels, hmemory, hgames, hplatform, hinternal, hdatabase, hkicks,
      hcommands, hasked, hcount, -⟩ := hintegers
    obtain ⟨cpu, hcpu⟩ := Option.isSome_iff_exists.mp hcpu
    obtain ⟨users, husers⟩ := hinteger (by decide) husers
    obtain ⟨servers, hservers⟩ := hinteger (by decide) hservers
    obtain ⟨channels, hchannels⟩ := hinteger (by decide) hchannels
    obtain ⟨memory, hmemory⟩ := hinteger (by decide) hmemory
    obtain ⟨games, hgames⟩ := hsigned hgames
    obtain ⟨platform, hplatform⟩ := hunsigned hplatform
    obtain ⟨internal, hinternal⟩ := hunsigned hinternal
    obtain ⟨database, hdatabase⟩ := hunsigned hdatabase
    obtain ⟨kicks, hkicks⟩ := hunsigned hkicks
    obtain ⟨commands, hcommands⟩ := hunsigned hcommands
    obtain ⟨asked, hasked⟩ := hsigned hasked
    obtain ⟨count, hcount⟩ := hsigned hcount
    exact ⟨⟨date, cpu, ⟨users, servers, channels, memory, games⟩, ⟨platform, internal, database⟩,
      kicks, commands, asked, count⟩, hdate, hcpu, husers, hservers, hchannels, hmemory, hgames,
      hplatform, hinternal, hdatabase, hkicks, hcommands, hasked, hcount⟩
  · rintro ⟨sample, h⟩
    have hinteger {column : String} {cell : Cell} {n : Int64} (h : cell = n) :
        column ∉ missing → cell.integer?.isSome := fun _ ↦ by rw [h]; rfl
    have hsigned {column : String} {cell : Cell} {n : Int}
        (h : oldValue missing column cell = some n) : column ∉ missing → cell.integer?.isSome :=
      isSome_oldValue_iff.mp (by rw [h]; rfl)
    have hunsigned {column : String} {cell : Cell} {n : Int}
        (h : (oldValue missing column cell).map (max 0) = some n) :
        column ∉ missing → cell.integer?.isSome :=
      isSome_oldValue_iff.mp (by simpa using congrArg Option.isSome h)
    refine ⟨⟨_, h.entryDate⟩, by rw [h.cpu]; rfl, ?_⟩
    simp only [GraphRow.integers, List.forall_mem_cons]
    exact ⟨hinteger h.users, hinteger h.servers, hinteger h.channels, hinteger h.memory,
      hsigned h.games, hunsigned h.platform, hunsigned h.internal, hunsigned h.database,
      hunsigned h.kicks, hunsigned h.commands, hsigned h.questionsAsked, hsigned h.questionCount,
      nofun⟩

end

variable {table : GraphTable}

/-- No more columns leave a table as it is. -/
theorem withColumns_nil : table.withColumns [] = table := by
  unfold GraphTable.withColumns
  rw [List.append_nil]
  exact congrArg (fun rows ↦ { table with rows }) (List.map_id table.rows)

/-- Columns can be added in two parts. -/
theorem withColumns_withColumns (first second : List String) :
    (table.withColumns first).withColumns second = table.withColumns (first ++ second) := by
  unfold GraphTable.withColumns
  simp only [List.map_map, List.append_assoc, Function.comp_def, zeroed_zeroed]

/-- Added columns come behind the others. -/
theorem columns_withColumns (columns : List String) :
    (table.withColumns columns).columns = table.columns ++ columns :=
  (List.append_assoc _ _ _).symm

/-- A graph table of an earlier program has a column if it is listed. -/
theorem hasColumn_iff (known : table.added ⊆ laterColumns) {column : String}
    (h : column ∈ createdColumns ++ laterColumns) :
    table.hasColumn column = true ↔ column ∈ table.columns :=
  any_sameColumn_iff (List.append_subset.mpr ⟨List.subset_append_left _ _,
    List.subset_append_of_subset_right _ known⟩) h

end Columns

section Steps

variable {store : Store} {table : GraphTable}

/-- Later columns that are not there yet are added one after the other. -/
theorem reaches_addColumns (unlocked : store.locked = false) (hgraphs : store.graphs = some table)
    (known : table.added ⊆ laterColumns) {columns : List String} (distinct : columns.Nodup)
    (hlater : columns ⊆ laterColumns) (hnew : ∀ column ∈ columns, column ∉ table.columns) :
    Reaches (columns.map Statement.addColumn) store
      { store with graphs := some (table.withColumns columns) } := by
  induction columns generalizing store table with
  | nil =>
    rw [withColumns_nil, ← hgraphs]
    exact .nil store
  | cons column columns ih =>
    obtain ⟨hcolumn, hrest⟩ := List.nodup_cons.mp distinct
    obtain ⟨hcolumnLater, hrestLater⟩ := List.cons_subset.mp hlater
    have hlacks : ¬ table.hasColumn column = true := by
      rw [hasColumn_iff known (List.mem_append_right _ hcolumnLater)]
      exact hnew column List.mem_cons_self
    have hadd := Statement.addColumn_apply column store
    rw [hgraphs] at hadd
    dsimp only at hadd
    rw [if_neg hlacks, if_neg (by rw [unlocked]; decide)] at hadd
    refine .cons hadd ?_
    have hmore : (table.withColumns [column]).added ⊆ laterColumns :=
      List.append_subset.mpr ⟨known, List.cons_subset.mpr ⟨hcolumnLater, List.nil_subset _⟩⟩
    have hstill : ∀ other ∈ columns, other ∉ (table.withColumns [column]).columns := by
      intro other hother hthere
      rw [columns_withColumns, List.mem_append, List.mem_singleton] at hthere
      rcases hthere with hthere | rfl
      · exact hnew other (List.mem_cons_of_mem _ hother) hthere
      · exact hcolumn hother
    have hlast : (table.withColumns (column :: columns)) =
        (table.withColumns [column]).withColumns columns := by
      rw [withColumns_withColumns, List.singleton_append]
    rw [hlast]
    exact ih unlocked rfl hmore hrest hrestLater hstill

/-- Recording a migration that is not recorded yet. -/
theorem recordMigration_ok (unlocked : store.locked = false) {names : List String}
    (h : store.migrations = some names) (hfree : store.guard? .insert .migrations none = none)
    {name : String} (hname : name ∉ names) :
    Statement.recordMigration name store =
      .ok ((), { store with migrations := some (names ++ [name]) }) := by
  have hopen : refusedRecord? store names name = none :=
    refusal?_eq_none_iff.mpr ⟨unlocked, if_neg hname, fun _ ↦ hfree⟩
  rw [Statement.recordMigration_of_some h, hopen]

/-- An empty counter is seeded if no guard forbids it. -/
theorem seedCounter_ok (unlocked : store.locked = false) {tallies : List Tally}
    (h : store.counters = some tallies) (hfree : store.guard? .insert .counters none = none) :
    Statement.seedCounter store =
      .ok ((), { store with counters := some (seeded tallies) }) := by
  have hopen : store.refusal? .insert .counters none (tallies = []) none = none :=
    refusal?_eq_none_iff.mpr ⟨unlocked, rfl, fun _ ↦ hfree⟩
  rw [Statement.seedCounter_of_some h, hopen]

/-- A store in which a table is there, empty if it was not. -/
def filled (store : Store) : Table → Store
  | .migrations => { store with migrations := some (store.migrations.getD []) }
  | .credits => { store with credits := some (store.credits.getD []) }
  | .clusters => { store with clusters := some (store.clusters.getD []) }
  | .shards => { store with shards := some (store.shards.getD []) }
  | .questions => { store with questions := some (store.questions.getD 0) }
  | .counters => { store with counters := some (store.counters.getD []) }
  | .graphs => { store with graphs := some (graphTable store) }

/-- A table is made that is not there. -/
theorem create_ok (unlocked : store.locked = false) (table : Table) :
    Statement.create table store = .ok ((), filled store table) := by
  have hfilled : (if store.has table then store else store.withNew table) = filled store table := by
    obtain ⟨migrations, credits, clusters, shards, questions, counters, graphs, guards, locked⟩ :=
      store
    cases table with
    | migrations => cases migrations <;> rfl
    | credits => cases credits <;> rfl
    | clusters => cases clusters <;> rfl
    | shards => cases shards <;> rfl
    | questions => cases questions <;> rfl
    | counters => cases counters <;> rfl
    | graphs => cases graphs <;> rfl
  rw [Statement.create_apply, ← hfilled, unlocked]
  cases store.has table <;> rfl

/-- Tables can be created one after the other. -/
theorem reaches_create (unlocked : store.locked = false) (tables : List Table) :
    Reaches (tables.map .create) store (tables.foldl filled store) := by
  induction tables generalizing store with
  | nil => exact .nil store
  | cons table tables ih =>
    have hfilled : (filled store table).locked = false := by cases table <;> exact unlocked
    exact .cons (create_ok unlocked table) (ih hfilled)

/-- The statements for the tables complete a store and seed its counter. -/
theorem reaches_steps_tables (unlocked : store.locked = false)
    (hfree : store.guard? .insert .counters none = none) (present : List String) :
    Reaches (Migration.tables.steps present) store (completed store) := by
  have hfirst := reaches_create unlocked [.credits, .clusters, .shards, .questions, .counters]
  refine hfirst.append (.cons (seedCounter_ok ?_ rfl ?_) (.cons (create_ok ?_ .graphs) (.nil _)))
  · exact unlocked
  · exact hfree
  · exact unlocked

end Steps

section

variable {store : Store}

/-- A store of an earlier program on the way to what migrating makes of it: some names were recorded
and some columns were added. -/
def underway (store : Store) (names columns : List String) : Store :=
  { adopted store with
    migrations := some (recorded store ++ names)
    graphs := some ((graphTable store).withColumns columns) }

/-- The name of a migration if it still has to be recorded. -/
def unrecordedOf (store : Store) (migration : Migration) : List String :=
  [migration.name].filter (· ∉ recorded store)

/-- The columns of a migration that are not there. -/
def lackedOf (store : Store) (migration : Migration) : List String :=
  migration.columns.filter (· ∉ graphColumns store)

private theorem some_getD_of_isSome {α : Type} {content : Option α} (h : content.isSome = true)
    (default : α) : some (content.getD default) = content := by
  obtain ⟨value, rfl⟩ := Option.isSome_iff_exists.mp h
  rfl

private theorem Older.added_subset (older : Older store) :
    (graphTable store).added ⊆ laterColumns := by
  unfold graphTable
  cases hgraphs : store.graphs with
  | none => exact List.nil_subset _
  | some table => exact (older.columns table hgraphs).2

/-- Whether a later column is there does not depend on whether the table is. -/
theorem mem_columns_graphTable {column : String} (h : column ∈ laterColumns) :
    column ∈ (graphTable store).columns ↔ column ∈ graphColumns store := by
  have hnew : ∀ later ∈ laterColumns, later ∉ createdColumns := by decide
  unfold graphTable graphColumns
  cases store.graphs with
  | none => exact iff_of_false (hnew column h) List.not_mem_nil
  | some table => exact Iff.rfl

/-- The tables are there or are made. -/
theorem Older.reaches_todo_tables (older : Older store) :
    Reaches (Migration.tables.todo (recorded store) (graphColumns store))
      (filled store .migrations) (underway store (unrecordedOf store .tables) []) := by
  unfold Migration.todo unrecordedOf underway adopted
  by_cases hrecorded : Migration.tables.name ∈ recorded store
  · have hthere : ∀ table, store.has table := older.present .tables hrecorded
    have hcounters : adoptedCounters store = store.counters.getD [] :=
      if_neg fun h ↦ h.1 hrecorded
    rw [if_pos hrecorded, hcounters, List.filter_cons_of_neg (by simpa using hrecorded),
      List.filter_nil, List.append_nil, withColumns_nil, graphTable,
      some_getD_of_isSome (hthere .credits), some_getD_of_isSome (hthere .clusters),
      some_getD_of_isSome (hthere .shards), some_getD_of_isSome (hthere .questions),
      some_getD_of_isSome (hthere .counters), some_getD_of_isSome (hthere .graphs)]
    exact .nil _
  · have hcounters : adoptedCounters store = seeded (store.counters.getD []) := by
      simp only [adoptedCounters, seeded, hrecorded, not_false_eq_true, true_and]
    rw [if_neg hrecorded, hcounters, List.filter_cons_of_pos (by simpa using hrecorded),
      List.filter_nil, withColumns_nil]
    have hseed : (filled store .migrations).guard? .insert .counters none = none :=
      older.free .counters
    have hrecord : (completed (filled store .migrations)).guard? .insert .migrations none = none :=
      older.free .migrations
    refine (reaches_steps_tables (by exact older.unlocked) hseed (graphColumns store)).append ?_
    exact .cons (recordMigration_ok (by exact older.unlocked) rfl hrecord hrecorded) (.nil _)

/-- The columns of a migration are there or are added. -/
theorem Older.reaches_todo_columns (older : Older store) {migration : Migration}
    (htables : migration ≠ .tables) {names columns : List String} (hname : migration.name ∉ names)
    (hlater : columns ⊆ laterColumns) (hother : ∀ column ∈ migration.columns, column ∉ columns) :
    Reaches (migration.todo (recorded store) (graphColumns store)) (underway store names columns)
      (underway store (names ++ unrecordedOf store migration)
        (columns ++ lackedOf store migration)) := by
  have hcolumns : migration.columns ⊆ laterColumns := by
    cases migration <;> decide
  unfold Migration.todo unrecordedOf
  by_cases hrecorded : migration.name ∈ recorded store
  · have hthere : migration.columns ⊆ graphColumns store := by
      have hpresent := older.present migration hrecorded
      cases migration with
      | tables => exact absurd rfl htables
      | latency => exact hpresent
      | activity => exact hpresent
    have hnone : lackedOf store migration = [] :=
      List.filter_eq_nil_iff.mpr fun column hcolumn ↦ by simpa using hthere hcolumn
    rw [if_pos hrecorded, List.filter_cons_of_neg (by simpa using hrecorded), List.filter_nil,
      hnone, List.append_nil, List.append_nil]
    exact .nil _
  · have hsteps : migration.steps (graphColumns store) =
        (lackedOf store migration).map Statement.addColumn := by
      cases migration with
      | tables => exact absurd rfl htables
      | latency => rfl
      | activity => rfl
    have hadded : ((graphTable store).withColumns columns).added ⊆ laterColumns :=
      List.append_subset.mpr ⟨older.added_subset, hlater⟩
    have hnew : ∀ column ∈ lackedOf store migration,
        column ∉ ((graphTable store).withColumns columns).columns := by
      intro column hlacked hthere
      obtain ⟨hcolumn, hmissing⟩ := List.mem_filter.mp hlacked
      rw [columns_withColumns, List.mem_append, mem_columns_graphTable (hcolumns hcolumn)] at hthere
      rcases hthere with hthere | hthere
      · exact of_decide_eq_true hmissing hthere
      · exact hother column hcolumn hthere
    have hadd : Reaches ((lackedOf store migration).map Statement.addColumn)
        (underway store names columns)
        (underway store names (columns ++ lackedOf store migration)) := by
      have hgraphs : (underway store names columns).graphs =
          some ((graphTable store).withColumns columns) := rfl
      have hreaches := reaches_addColumns (by exact older.unlocked) hgraphs hadded
        (migration.nodup_columns.filter _)
        (fun _ h ↦ hcolumns (List.mem_of_mem_filter h)) hnew
      rwa [withColumns_withColumns] at hreaches
    have hfree : (underway store names (columns ++ lackedOf store migration)).guard? .insert
        .migrations none = none := older.free .migrations
    have hnot : migration.name ∉ recorded store ++ names := fun h ↦
      (List.mem_append.mp h).elim hrecorded hname
    have hrecord := recordMigration_ok (by exact older.unlocked) rfl hfree hnot
    rw [List.append_assoc] at hrecord
    rw [if_neg hrecorded, List.filter_cons_of_pos (by simpa using hrecorded), List.filter_nil,
      hsteps]
    exact hadd.append (.cons hrecord (.nil _))

private theorem unrecorded_eq (store : Store) :
    unrecorded store = unrecordedOf store .tables ++ unrecordedOf store .latency ++
      unrecordedOf store .activity := by
  unfold unrecorded unrecordedOf
  rw [← List.filter_append, ← List.filter_append]
  rfl

private theorem lacked_eq (store : Store) :
    lacked store = lackedOf store .latency ++ lackedOf store .activity := by
  unfold lacked lackedOf
  rw [← List.filter_append]
  rfl

/-- Each statement of the plan for a store of an earlier program succeeds. -/
theorem Older.reaches_plan (older : Older store) : Reaches (plan store) store (adopted store) := by
  have hnames {migration other : Migration} (hne : migration ≠ other) :
      migration.name ∉ unrecordedOf store other := fun hmem ↦
    hne (Migration.eq_of_name_eq (List.mem_singleton.mp (List.mem_of_mem_filter hmem)))
  have hlatency : Reaches (Migration.latency.todo (recorded store) (graphColumns store))
      (underway store (unrecordedOf store .tables) [])
      (underway store (unrecordedOf store .tables ++ unrecordedOf store .latency)
        (lackedOf store .latency)) :=
    older.reaches_todo_columns (by decide) (hnames (by decide)) (List.nil_subset _)
      fun _ _ ↦ List.not_mem_nil
  have hactivity : Reaches (Migration.activity.todo (recorded store) (graphColumns store))
      (underway store (unrecordedOf store .tables ++ unrecordedOf store .latency)
        (lackedOf store .latency))
      (adopted store) := by
    have hname : Migration.activity.name ∉
        unrecordedOf store .tables ++ unrecordedOf store .latency := fun hmem ↦
      (List.mem_append.mp hmem).elim (hnames (by decide)) (hnames (by decide))
    have hlater : lackedOf store .latency ⊆ laterColumns := fun column hmem ↦
      List.mem_flatMap.mpr ⟨.latency, by decide, List.mem_of_mem_filter hmem⟩
    have hother : ∀ column ∈ Migration.activity.columns, column ∉ lackedOf store .latency :=
      fun column hcolumn hmem ↦ Migration.noConfusion
        (Migration.eq_of_mem_columns hcolumn (List.mem_of_mem_filter hmem))
    have hreaches := older.reaches_todo_columns (by decide) hname hlater hother
    rwa [← unrecorded_eq, ← lacked_eq] at hreaches
  refine .cons (create_ok older.unlocked .migrations) (older.reaches_todo_tables.append ?_)
  exact hlatency.append (hactivity.append (.nil _))

/-- Migrating the store of an earlier program succeeds. -/
theorem Older.run_migrate (older : Older store) : migrate.run store = (.ok (), adopted store) := by
  rw [BotOps.Store.run_migrate]
  exact run_transaction_ok older.reaches_plan.run_inTurn

/-- A store that records all migrations is left as it is. -/
theorem run_migrate_of_recorded {names : List String} (h : store.migrations = some names)
    (hall : ∀ migration : Migration, migration.name ∈ names) :
    migrate.run store = (.ok (), store) := by
  have hrecorded : recorded store = names := by
    rw [recorded, h]
    rfl
  have htodo (migration : Migration) :
      migration.todo (recorded store) (graphColumns store) = [] := by
    rw [Migration.todo, hrecorded, if_pos (hall migration)]
  have hplan : plan store = [Statement.create .migrations] := by
    unfold plan
    rw [List.flatMap_eq_nil_iff.mpr fun migration _ ↦ htodo migration]
  have hthere : store.has .migrations = true := by
    rw [Store.has, h]
    rfl
  have hcreate : Statement.create .migrations store = .ok ((), store) := by
    rw [Statement.create_apply, if_pos hthere]
  have hreaches : Reaches (plan store) store store := by
    rw [hplan]
    exact .cons hcreate (.nil store)
  rw [BotOps.Store.run_migrate]
  exact run_transaction_ok hreaches.run_inTurn

/-- Each migration is recorded in the end. -/
theorem mem_names_adopted (store : Store) (migration : Migration) :
    migration.name ∈ recorded store ++ unrecorded store := by
  have hall : migration.name ∈ Migration.all.map Migration.name := by
    cases migration <;> decide
  by_cases h : migration.name ∈ recorded store
  · exact List.mem_append_left _ h
  · exact List.mem_append_right _ (List.mem_filter.mpr ⟨hall, by simpa using h⟩)

/-- Each migration is recorded once. -/
theorem Older.perm_names (older : Older store) :
    (recorded store ++ unrecorded store).Perm (Migration.all.map Migration.name) := by
  have hdistinct : (Migration.all.map Migration.name).Nodup := by decide
  have hnodup : (recorded store ++ unrecorded store).Nodup := by
    refine List.nodup_append'.mpr ⟨older.nodup, hdistinct.filter _, fun name hname hmissing ↦ ?_⟩
    exact of_decide_eq_true (List.mem_filter.mp hmissing).2 hname
  refine (List.perm_ext_iff_of_nodup hnodup hdistinct).mpr fun name ↦ ⟨fun h ↦ ?_, fun h ↦ ?_⟩
  · exact (List.mem_append.mp h).elim (older.names ·) List.mem_of_mem_filter
  · obtain ⟨migration, -, rfl⟩ := List.mem_map.mp h
    exact mem_names_adopted store migration

/-- Afterwards the names of the migrations are those of all. -/
theorem Older.run_appliedMigrations (older : Older store) :
    appliedMigrations.run (adopted store) =
      (.ok (Migration.all.map Migration.name), adopted store) := by
  have hsorted : (recorded store ++ unrecorded store).mergeSort (fun a b ↦ a ≤ b) =
      Migration.all.map Migration.name := by
    have htrans (a b c : String) (hab : decide (a ≤ b) = true) (hbc : decide (b ≤ c) = true) :
        decide (a ≤ c) = true :=
      decide_eq_true (String.le_trans (of_decide_eq_true hab) (of_decide_eq_true hbc))
    have htotal (a b : String) : (decide (a ≤ b) || decide (b ≤ a)) = true := by
      simpa using String.le_total a b
    have horder := List.pairwise_mergeSort htrans htotal (recorded store ++ unrecorded store)
    exact List.Perm.eq_of_pairwise
      (fun _ _ _ _ hab hba ↦ String.le_antisymm (of_decide_eq_true hab) (of_decide_eq_true hba))
      horder (by decide) ((List.mergeSort_perm _ _).trans older.perm_names)
  have hread : Statement.migrationNames (adopted store) =
      .ok (recorded store ++ unrecorded store, adopted store) := Statement.content_some rfl
  unfold appliedMigrations
  rw [run_bind_ok (run_execute_ok hread), hsorted]
  rfl

/-- Afterwards the graph table has all columns of a sample. -/
theorem sampleColumns_subset (store : Store) :
    sampleColumns ⊆ ((graphTable store).withColumns (lacked store)).columns := by
  have hcolumns : ∀ column ∈ sampleColumns, column ∈ createdColumns ∨ column ∈ laterColumns := by
    decide
  intro column hcolumn
  rw [columns_withColumns, List.mem_append]
  rcases hcolumns column hcolumn with hcreated | hlater
  · exact .inl (List.mem_append_left _ hcreated)
  · by_cases hthere : column ∈ graphColumns store
    · exact .inl ((mem_columns_graphTable hlater).mpr hthere)
    · exact .inr (List.mem_filter.mpr ⟨hlater, by simpa using hthere⟩)

private theorem lacking?_eq_none {table : GraphTable} (h : sampleColumns ⊆ table.columns) :
    table.lacking? = none := by
  refine List.find?_eq_none.mpr fun column hcolumn ↦ ?_
  have hthere : table.hasColumn column = true :=
    List.any_eq_true.mpr ⟨column, h hcolumn, decide_eq_true rfl⟩
  simp [hthere]

/-- Afterwards the old rows are read in the order of their dates, with 0 in new columns. -/
theorem run_listSamples_adopted (store : Store) :
    listSamples.run (adopted store) =
      (((graphTable store).sorted.map fun row ↦ row.zeroed (lacked store)).mapM GraphRow.read,
        adopted store) := by
  have hsorted : ((graphTable store).withColumns (lacked store)).sorted =
      (graphTable store).sorted.map fun row ↦ row.zeroed (lacked store) := by
    refine (List.map_mergeSort ?_).symm
    exact fun _ _ _ _ ↦ rfl
  rw [← hsorted]
  exact run_listSamples rfl (lacking?_eq_none (sampleColumns_subset store))

private theorem lacked_subset (store : Store) :
    lacked store ⊆ laterColumns := List.filter_subset_self _

/-- Afterwards the samples are listed if each old row has values of the right types. -/
theorem exists_run_listSamples_adopted
    (readable : ∀ row ∈ (graphTable store).rows, Readable (lacked store) row) :
    ∃ samples, listSamples.run (adopted store) = (.ok samples, adopted store) ∧
      List.Forall₂ (ReadFrom (lacked store)) (graphTable store).sorted samples := by
  have hread : ∀ row ∈ (graphTable store).sorted.map fun row ↦ row.zeroed (lacked store),
      ∃ sample, row.read = .ok sample := by
    refine List.forall_mem_map.mpr fun row hrow ↦ ?_
    exact ((readable_iff (lacked_subset store)).mp
      (readable row ((graphTable store).perm_sorted.mem_iff.mp hrow))).imp fun _ ↦
        (read_zeroed_eq_ok_iff (lacked_subset store)).mpr
  obtain ⟨samples, hsamples⟩ := exists_mapM_eq_ok_iff.mpr hread
  refine ⟨samples, by rw [run_listSamples_adopted, hsamples], ?_⟩
  exact (List.forall₂_map_left_iff.mp (mapM_eq_ok_iff.mp hsamples)).imp fun _ _ ↦
    (read_zeroed_eq_ok_iff (lacked_subset store)).mp

/-- Afterwards no samples are listed if an old row has a value of another type. -/
theorem exists_run_listSamples_adopted_error {row : GraphRow} (hrow : row ∈ (graphTable store).rows)
    (unreadable : ¬ Readable (lacked store) row) :
    ∃ error, listSamples.run (adopted store) = (.error error, adopted store) ∧ error.IsUnread := by
  rw [run_listSamples_adopted]
  cases hread : ((graphTable store).sorted.map fun row ↦ row.zeroed (lacked store)).mapM
      GraphRow.read with
  | error error =>
    obtain ⟨old, -, hfails⟩ := exists_of_mapM_eq_error hread
    exact ⟨error, rfl, old.isUnread_of_read error hfails⟩
  | ok samples =>
    obtain ⟨sample, hsample⟩ := exists_mapM_eq_ok_iff.mp ⟨samples, hread⟩ _
      (List.mem_map_of_mem ((graphTable store).perm_sorted.mem_iff.mpr hrow))
    have hreadable := (readable_iff (lacked_subset store)).mpr
      ⟨sample, (read_zeroed_eq_ok_iff (lacked_subset store)).mp hsample⟩
    exact absurd hreadable unreadable

/-- Afterwards a sample is written unless its load is no number or no number is left for its row. -/
theorem Older.run_insertSample (older : Older store) (sample : Sample) :
    (insertSample sample).run (adopted store) =
      if greatestId ≤ (graphTable store).lastId then (.error .full, adopted store)
      else if sample.cpu.isNaN then
        (.error (.missingValue (Table.graphs.name ++ ".cpu")), adopted store)
      else
        (.ok ((graphTable store).lastId + 1),
          { adopted store with
            graphs := some (((graphTable store).withColumns (lacked store)).append fun id ↦
              .ofSample id sample) }) := by
  have hgraphs : (adopted store).graphs =
      some ((graphTable store).withColumns (lacked store)) := rfl
  have hlocked : (adopted store).locked = false := older.unlocked
  have hfree : (adopted store).guard? .insert .graphs none = none := older.free .graphs
  have hlast : ((graphTable store).withColumns (lacked store)).lastId = (graphTable store).lastId :=
    rfl
  rw [BotOps.Store.run_insertSample, hgraphs]
  dsimp only
  rw [lacking?_eq_none (sampleColumns_subset store), rejection?, refusal?, hlocked, hfree,
    breach?_ofSample, hlast]
  by_cases hfull : greatestId ≤ (graphTable store).lastId
  · rw [if_pos hfull, if_pos hfull]
    rfl
  · rw [if_neg hfull, if_neg hfull]
    cases sample.cpu.isNaN <;> rfl

end

end BotOps.Store
