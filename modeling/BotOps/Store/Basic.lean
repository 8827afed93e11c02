import BotOps.Store.Error
import BotOps.Store.Row

/-!
# The store

The database of the bot, as far as the maintenance jobs see it. A table may be missing. A
statement either fails, and then leaves no trace, or gives a new store. An operation is a sequence
of statements, and a transaction is an operation whose effects are undone if it fails.
-/

namespace BotOps.Store

/-- The tables that the jobs know. -/
inductive Table where
  | migrations
  | credits
  | clusters
  | shards
  | questions
  | counters
  | graphs
deriving DecidableEq, Repr, Inhabited

namespace Table

/-- All tables. -/
def all : List Table :=
  [.migrations, .credits, .clusters, .shards, .questions, .counters, .graphs]

/-- The name of a table. -/
def name : Table → String
  | .migrations => "schema_migration"
  | .credits => "premium_credits"
  | .clusters => "infobot_discord_counts"
  | .shards => "infobot_shard_status"
  | .questions => "questions"
  | .counters => "counters"
  | .graphs => "trivia_graphs"

/-- The names of the indexes that come with a table. -/
def indexes : Table → List String
  | .credits => ["idx_premium_credits_user"]
  | .graphs => ["idx_trivia_graphs_entry_date"]
  | _ => []

/-- The table of a name, in any case of letters. -/
def ofName? (name : String) : Option Table := all.find? fun table ↦ table.name = name.toLower

end Table

/-- The graph table: the columns added to those it was created with, in order, its rows in the
order of their numbers, and the greatest number that a row ever had. -/
structure GraphTable where
  added : List String
  rows : List GraphRow
  lastId : Nat
deriving DecidableEq, Repr, Inhabited

/-- A rule of another program that forbids a change to a table, of any row or only of the one of
a subscription. -/
structure Guard where
  change : Change
  table : Table
  /-- The table as the other program names it. -/
  label : String
  subscription : Option String
deriving DecidableEq, Repr, Inhabited

end BotOps.Store

namespace BotOps

open BotOps.Store

/-- A database as it was opened. Rows are listed in the order of their insertion. -/
structure Store where
  /-- The names of the migrations that were applied. -/
  migrations : Option (List String)
  credits : Option (List CreditRow)
  clusters : Option (List ClusterRow)
  shards : Option (List ShardRow)
  /-- The number of questions. -/
  questions : Option Nat
  counters : Option (List Tally)
  graphs : Option GraphTable
  guards : List Guard
  /-- The database was opened only to be read. -/
  locked : Bool
deriving DecidableEq, Repr, Inhabited

namespace Store

/-- A store without any table. -/
def empty : Store := ⟨none, none, none, none, none, none, none, [], false⟩

/-- A store has a table. -/
def has (store : Store) : Table → Bool
  | .migrations => store.migrations.isSome
  | .credits => store.credits.isSome
  | .clusters => store.clusters.isSome
  | .shards => store.shards.isSome
  | .questions => store.questions.isSome
  | .counters => store.counters.isSome
  | .graphs => store.graphs.isSome

/-- A store with a table made anew and empty. -/
def withNew (store : Store) : Table → Store
  | .migrations => { store with migrations := some [] }
  | .credits => { store with credits := some [] }
  | .clusters => { store with clusters := some [] }
  | .shards => { store with shards := some [] }
  | .questions => { store with questions := some 0 }
  | .counters => { store with counters := some [] }
  | .graphs => { store with graphs := some ⟨[], [], 0⟩ }

/-- A guard that forbids a change to a table, or to its row of a subscription. -/
def guard? (store : Store) (change : Change) (table : Table) (subscription : Option String) :
    Option Guard :=
  store.guards.find? fun guard ↦
    guard.change = change && guard.table = table &&
      (guard.subscription.isNone || guard.subscription = subscription)

/-- Why a store refuses a change: it is locked, the change would break a rule of the table, or it
touches rows and a guard forbids that. -/
def refusal? (store : Store) (change : Change) (table : Table) (subscription : Option String)
    (touching : Bool) (breach : Option StoreError) : Option StoreError :=
  if store.locked then some .locked
  else breach.or <|
    if touching then
      (store.guard? change table subscription).map fun guard ↦ .blocked change guard.label
    else none

/-- The names of the tables and indexes of a store, sorted. -/
def names (store : Store) : List String :=
  (((Table.all.filter fun table ↦ store.has table).flatMap fun table ↦
    table.name :: table.indexes)).mergeSort fun a b ↦ a ≤ b

/-- A statement fails and leaves no trace, or gives an answer and a new store. -/
abbrev Statement := StateT Store (Except StoreError)

/-- An operation executes statements; what it did before it failed stays done. -/
abbrev Operation := ExceptT StoreError (StateM Store)

/-- Executes one statement. -/
def execute {α : Type} (statement : Statement α) : Operation α :=
  ExceptT.mk fun store ↦
    match statement store with
    | .ok (answer, changed) => (.ok answer, changed)
    | .error error => (.error error, store)

/-- Executes an operation and undoes it if it fails. -/
def transaction {α : Type} (operation : Operation α) : Operation α :=
  ExceptT.mk fun store ↦
    match operation.run store with
    | (.ok answer, changed) => (.ok answer, changed)
    | (.error error, _) => (.error error, store)

namespace Statement

/-- The content of a table, which has to be there. -/
def content {α : Type} (table : Table) (select : Store → Option α) : Statement α := do
  match select (← get) with
  | some rows => return rows
  | none => throw (.missingTable table.name)

/-- Fails if the store refuses a change. -/
def permit (change : Change) (table : Table) (subscription : Option String) (touching : Bool)
    (breach : Option StoreError) : Statement Unit := do
  match (← get).refusal? change table subscription touching breach with
  | none => return ()
  | some error => throw error

/-- Fails if the store is locked. -/
def unlock : Statement Unit := do
  if (← get).locked then throw .locked

/-- Creates a table unless it is there. -/
def create (table : Table) : Statement Unit := do
  if !(← get).has table then
    unlock
    modify fun store ↦ store.withNew table

end Statement

end Store

end BotOps
