import BotOps.Store.Graphs

/-!
# Migrations

The schema of the store is built in three migrations, each of which is recorded once it was
applied. Programs of an earlier time may have made some of the tables and columns already, and
those are taken over.
-/

namespace BotOps.Store

/-- The steps in which the schema is built. -/
inductive Migration where
  /-- Creates the tables. -/
  | tables
  /-- Adds the columns for latencies to the graph table. -/
  | latency
  /-- Adds the columns for activity to the graph table. -/
  | activity
deriving DecidableEq, Repr, Inhabited

namespace Migration

/-- The migrations in their order. -/
def all : List Migration := [.tables, .latency, .activity]

/-- The name under which a migration is recorded. -/
def name : Migration → String
  | .tables => "0001_init"
  | .latency => "0002_add_graph_latency"
  | .activity => "0003_add_graph_activity"

/-- The columns that a migration adds to the graph table. -/
def columns : Migration → List String
  | .tables => []
  | .latency => ["discord_ping", "trivia_api_ping", "db_ping"]
  | .activity => ["games", "kicks", "commands", "questions_asked", "question_count"]

end Migration

namespace Statement

/-- Adds a column of zeros to the graph table. -/
def addColumn (column : String) : Statement Unit := do
  let table ← content .graphs Store.graphs
  if table.hasColumn column then throw (.duplicateColumn column)
  unlock
  modify fun store ↦ { store with graphs := some (table.withColumn column) }

/-- The names of the columns of the graph table, none if there is no such table. -/
def graphColumns : Statement (List String) := do
  return ((← get).graphs.map GraphTable.columns).getD []

/-- Puts a counter of 0 into the table of the counter if it is empty. -/
def seedCounter : Statement Unit := do
  let tallies ← content .counters Store.counters
  permit .insert .counters none (tallies = []) none
  if tallies = [] then
    modify fun store ↦ { store with counters := some [.exact 0] }

/-- The names of the applied migrations. -/
def migrationNames : Statement (List String) := content .migrations Store.migrations

/-- Records an applied migration. -/
def recordMigration (name : String) : Statement Unit := do
  let names ← migrationNames
  permit .insert .migrations none true <|
    if name ∈ names then some (.duplicateKey [Table.migrations.name ++ ".name"]) else none
  modify fun store ↦ { store with migrations := some (names ++ [name]) }

end Statement

namespace Migration

/-- Executes the statements of a migration, each by itself. -/
def script (migration : Migration) : Operation Unit :=
  match migration with
  | .tables => do
    [Table.credits, .clusters, .shards, .questions, .counters].forM fun table ↦
      execute (Statement.create table)
    execute Statement.seedCounter
    execute (Statement.create .graphs)
  | _ => migration.columns.forM fun column ↦ execute (Statement.addColumn column)

/-- Adds those columns of a migration that the graph table lacks. -/
def fillIn (migration : Migration) : Operation Unit :=
  migration.columns.forM fun column ↦ do
    let present ← execute Statement.graphColumns
    if column ∉ present then execute (Statement.addColumn column)

/-- Brings the tables to the state after a migration. If another program added some of the columns
before, only the others are added. -/
def perform (migration : Migration) : Operation Unit := do
  let present ← execute Statement.graphColumns
  if migration.columns.any (· ∈ present) then migration.fillIn else migration.script

/-- Performs and records a migration unless it is recorded. -/
def apply (migration : Migration) : Operation Unit := do
  let names ← execute Statement.migrationNames
  if migration.name ∉ names then
    migration.perform
    execute (Statement.recordMigration migration.name)

end Migration

/-- Applies all migrations that are not yet recorded. -/
def migrate : Operation Unit :=
  transaction do
    execute (Statement.create .migrations)
    Migration.all.forM Migration.apply

/-- The names of the applied migrations, sorted. -/
def appliedMigrations : Operation (List String) := do
  let names ← execute Statement.migrationNames
  return names.mergeSort fun a b ↦ a ≤ b

end BotOps.Store
