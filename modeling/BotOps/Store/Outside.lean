import BotOps.Store.Credits
import BotOps.Store.Migration

/-!
# What other programs do

The store is shared with the bot and with older programs. They fill the tables that the jobs only
read, change the schema, and may forbid changes. They open the store themselves, and not only to
read it.
-/

namespace BotOps.Store.Outside

open BotOps.Metrics

/-- A table that the store keeps about itself. -/
inductive SystemTable where
  /-- What tables and indexes there are. -/
  | schema
  /-- The greatest row numbers that were given out. -/
  | sequence
deriving DecidableEq, Repr

/-- The name of a table that the store keeps about itself. -/
def SystemTable.name : SystemTable → String
  | .schema => "sqlite_master"
  | .sequence => "sqlite_sequence"

/-- What a name stands for. -/
inductive Named where
  | table (table : Table)
  | system (table : SystemTable)
deriving DecidableEq, Repr

/-- Some table of a store numbers its rows. -/
def hasNumbered (store : Store) : Bool := [Table.credits, .questions, .graphs].any store.has

/-- What a name, in any case of letters, stands for in a store. -/
def find? (store : Store) (name : String) : Option Named :=
  match name.toLower with
  | "sqlite_master" | "sqlite_schema" => some (.system .schema)
  | "sqlite_sequence" => if hasNumbered store then some (.system .sequence) else none
  | _ => ((Table.ofName? name).filter store.has).map .table

/-- What a name stands for, which has to be in the store. -/
def named (name : String) : Statement Named := do
  match find? (← get) name with
  | some found => return found
  | none => throw (.missingTable name)

/-- Executes the text of the first migrations without recording them. -/
def baseSchema (count : Nat) : Operation Unit := (Migration.all.take count).forM Migration.script

/-- Adds a column of zeros to the graph table. -/
def addColumn (column : String) : Operation Unit := execute (Statement.addColumn column)

/-- A store without a table, its indexes and the guards on it. -/
def removed (store : Store) (table : Table) : Store :=
  let store := { store with guards := store.guards.filter fun guard ↦ guard.table ≠ table }
  match table with
  | .migrations => { store with migrations := none }
  | .credits => { store with credits := none }
  | .clusters => { store with clusters := none }
  | .shards => { store with shards := none }
  | .questions => { store with questions := none }
  | .counters => { store with counters := none }
  | .graphs => { store with graphs := none }

/-- Drops a table. -/
def drop (name : String) : Operation Unit :=
  execute do
    match ← named name with
    | .table table => modify fun store ↦ removed store table
    | .system table => throw (.undroppable table.name)

/-- A store has no row in a table. -/
def isCleared (store : Store) : Table → Bool
  | .migrations => store.migrations = some []
  | .credits => store.credits = some []
  | .clusters => store.clusters = some []
  | .shards => store.shards = some []
  | .questions => store.questions = some 0
  | .counters => store.counters = some []
  | .graphs => store.graphs.any fun table ↦ table.rows = []

/-- A store without the rows of a table. Numbers of rows are not given out again. -/
def cleared (store : Store) : Table → Store
  | .graphs => { store with graphs := store.graphs.map fun table ↦ { table with rows := [] } }
  | table => store.withNew table

/-- A graph table that knows no greater number than those of its rows. -/
def forgetNumbers (table : GraphTable) : GraphTable :=
  { table with lastId := table.rows.foldl (fun last row ↦ max last row.id.toInt.toNat) 0 }

/-- Removes all rows of a table. -/
def clear (name : String) : Operation Unit :=
  execute do
    match ← named name with
    | .table table =>
      Statement.permit .delete table none (!isCleared (← get) table) none
      modify fun store ↦ cleared store table
    | .system .sequence =>
      modify fun store ↦ { store with graphs := store.graphs.map forgetNumbers }
    | .system .schema => throw (.unchangeable SystemTable.schema.name)

/-- Records a migration as applied. -/
def mark (name : String) : Operation Unit := execute (Statement.recordMigration name)

/-- Forgets that a migration was applied. -/
def unmark (name : String) : Operation Unit :=
  execute do
    let names ← Statement.migrationNames
    Statement.permit .delete .migrations none (name ∈ names) none
    modify fun store ↦ { store with migrations := some (names.filter (· ≠ name)) }

/-- Forbids a change to a table, or to the row of one subscription. -/
def block (change : Change) (name : String) (subscription : Option String) : Operation Unit :=
  execute do
    match find? (← get) name with
    | some (.table table) =>
      modify fun store ↦
        { store with guards := store.guards ++ [⟨change, table, name, subscription⟩] }
    | some (.system _) => throw .unguardable
    | none => throw (.missingTable ("main." ++ name))

/-- Allows a change to a table again. -/
def unblock (change : Change) (name : String) : Operation Unit :=
  execute do
    modify fun store ↦
      { store with guards := store.guards.filter fun guard ↦
          !(guard.change = change && guard.label.toLower = name.toLower) }

/-- Adds the report of a cluster. -/
def addCluster (row : ClusterRow) : Operation Unit :=
  execute do
    let rows ← Statement.content .clusters Store.clusters
    let known := rows.any fun other ↦
      other.shardId = row.shardId && other.clusterId = row.clusterId && other.dev = row.dev
    let key := ["shard_id", "cluster_id", "dev"].map fun column ↦
      Table.clusters.name ++ "." ++ column
    Statement.permit .insert .clusters none true (if known then some (.duplicateKey key) else none)
    modify fun store ↦ { store with clusters := some (rows ++ [row]) }

/-- Adds a shard. -/
def addShard (row : ShardRow) : Operation Unit :=
  execute do
    let rows ← Statement.content .shards Store.shards
    let known := rows.any fun other ↦ other.id = row.id
    Statement.permit .insert .shards none true
      (if known then some (.duplicateKey [Table.shards.name ++ ".id"]) else none)
    modify fun store ↦ { store with shards := some (rows ++ [row]) }

/-- Changes the state of a shard, if there is such a shard. -/
def setShard (row : ShardRow) : Operation Unit :=
  execute do
    let rows ← Statement.content .shards Store.shards
    let known := rows.any fun other ↦ other.id = row.id
    Statement.permit .update .shards none known none
    modify fun store ↦
      { store with shards := some (rows.map fun other ↦ if other.id = row.id then row else other) }

/-- Adds questions to the bank. -/
def addQuestions (count : Nat) : Operation Unit :=
  execute do
    if count ≠ 0 then
      let present ← Statement.content .questions Store.questions
      Statement.permit .insert .questions none true none
      modify fun store ↦ { store with questions := some (present + count) }

/-- Adds a row to the counter. -/
def addCounter (asked : Int64) : Operation Unit :=
  execute do
    let tallies ← Statement.content .counters Store.counters
    Statement.permit .insert .counters none true none
    modify fun store ↦ { store with counters := some (tallies ++ [.exact asked]) }

/-- Adds the row of a credit. -/
def addCredit (row : CreditRow) : Operation Unit :=
  execute do
    let rows ← Statement.content .credits Store.credits
    let known := rows.any fun other ↦ other.subscriptionId = row.subscriptionId
    Statement.permit .insert .credits (some row.subscriptionId) true
      (if known then some (.duplicateKey [Table.credits.name ++ ".subscription_id"]) else none)
    modify fun store ↦ { store with credits := some (rows ++ [row]) }

/-- Adds a row to the graph table with a value for each column of a sample. The row gets its number
from the table. -/
def addGraph (row : GraphRow) : Operation Unit := do
  let _ ← execute (Statement.insertGraph fun id ↦
    { row with id := .ofNat id, cpu := row.cpu.stored })

/-- Adds a row to the graph table with a date, a load and a number of users only. -/
def addOldGraph (entryDate : String) (cpu : Double) (users : Int64) : Operation Unit := do
  let row (id : Nat) : GraphRow :=
    .ofSample id ⟨entryDate, cpu, ⟨users, 0, 0, 0, 0⟩, .none, 0, 0, 0, 0⟩
  let _ ← execute (Statement.appendGraph row)

/-- The rows of the credits. -/
def creditRows : Operation (List CreditRow) := execute (Statement.content .credits Store.credits)

/-- The columns of the graph table. -/
def columns : Operation (List String) := execute Statement.graphColumns

end BotOps.Store.Outside
