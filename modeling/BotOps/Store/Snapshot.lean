import BotOps.Json.Printer
import BotOps.Json.Reader
import BotOps.Store.Basic

/-!
# Snapshots of a store

A store is kept between runs as a JSON text: `save` writes it and `load?` reads it. Each table is
an array of its rows, and each row an array of its columns; a table that is missing is null. Whether
the store was opened only to be read is not kept.
-/

namespace BotOps.Store.Snapshot

open BotOps.Json BotOps.Metrics BotOps.Text

/-! ## Columns -/

/-- Writes a whole number. -/
def whole (n : Int) : Value :=
  .number (if n < 0 then '-' :: Decimal.plain n.natAbs else Decimal.plain n.natAbs)

/-- Reads a whole number. -/
def whole? : Value → Option Int
  | .number ('-' :: digits) =>
    if digits.all Char.isDigit then some (-Decimal.value digits) else none
  | .number digits => if digits.all Char.isDigit then some (Decimal.value digits) else none
  | _ => none

/-- Reads a number that is not negative. -/
def natural? (value : Value) : Option Nat := (whole? value).map Int.toNat

/-- Writes an integer of 64 bits. -/
def signed (n : Int64) : Value := whole n.toInt

/-- Reads an integer of 64 bits. -/
def signed? (value : Value) : Option Int64 := (whole? value).map Int64.ofInt

/-- Writes a double by its bits. -/
def double (x : Double) : Value := whole x.bits.toNat

/-- Reads a double. -/
def double? (value : Value) : Option Double := (natural? value).map fun bits ↦ ⟨.ofNat bits⟩

/-- Writes a text. -/
def text (s : String) : Value := .string (some s)

/-- Reads a text. -/
def text? : Value → Option String
  | .string content => content
  | _ => none

/-- Writes what may be missing. -/
def optional {α : Type} (write : α → Value) : Option α → Value
  | none => .null
  | some a => write a

/-- Reads what may be missing. -/
def optional? {α : Type} (read : Value → Option α) : Value → Option (Option α)
  | .null => some none
  | value => (read value).map some

/-- Writes a list. -/
def many {α : Type} (write : α → Value) (rows : List α) : Value := .array (rows.map write)

/-- Reads a list. -/
def many? {α : Type} (read : Value → Option α) : Value → Option (List α)
  | .array items => items.mapM read
  | _ => none

/-! ## Rows -/

/-- Writes the row of a credit. -/
def credit (row : CreditRow) : Value :=
  .array [optional text row.userId, text row.subscriptionId, optional text row.guildId,
    signed row.active, text row.since, text row.planId, signed row.paymentFailed,
    optional text row.cancelDate, text row.updatedAt]

/-- Reads the row of a credit. -/
def credit? : Value → Option CreditRow
  | .array [user, subscription, guild, active, since, plan, failed, cancelled, updated] => do
    return ⟨← optional? text? user, ← text? subscription, ← optional? text? guild,
      ← signed? active, ← text? since, ← text? plan, ← signed? failed,
      ← optional? text? cancelled, ← text? updated⟩
  | _ => none

/-- Writes what a cell of texts keeps: bytes that are no text stand in an array of their own. -/
def octets : Octets → Value
  | .text bytes => many (fun b ↦ whole (b.toNat : Nat)) bytes
  | .blob bytes => .array [many (fun b ↦ whole (b.toNat : Nat)) bytes]

/-- Reads what a cell of texts keeps. -/
def octets? : Value → Option Octets
  | .array [.array bytes] => (bytes.mapM natural?).map fun bytes ↦ .blob (bytes.map UInt8.ofNat)
  | .array bytes => (bytes.mapM natural?).map fun bytes ↦ .text (bytes.map UInt8.ofNat)
  | _ => none

/-- Writes a cell: whole numbers stand by themselves and all else behind a letter. -/
def cell : Cell → Value
  | .integer n => signed n
  | .real x => .array [text "r", double x]
  | .octets content => .array [text "o", octets content]

/-- Reads a cell. -/
def cell? : Value → Option Cell
  | .array [letter, value] => do
    match ← text? letter with
    | "r" => return .real (← double? value)
    | "o" => return .octets (← octets? value)
    | _ => none
  | value => (signed? value).map .integer

/-- Writes a population. -/
def population (p : Population) : Value :=
  many signed [p.users, p.servers, p.channels, p.memory, p.games]

/-- Reads a population. -/
def population? (value : Value) : Option Population := do
  match ← many? signed? value with
  | [users, servers, channels, memory, games] => some ⟨users, servers, channels, memory, games⟩
  | _ => none

/-- Writes the row of a cluster. -/
def cluster (row : ClusterRow) : Value :=
  .array [signed row.shardId, signed row.clusterId, signed row.dev, population row.population]

/-- Reads the row of a cluster. -/
def cluster? : Value → Option ClusterRow
  | .array [shard, cluster, dev, counts] => do
    return ⟨← signed? shard, ← signed? cluster, ← signed? dev, ← population? counts⟩
  | _ => none

/-- Writes the row of a shard. -/
def shard (row : ShardRow) : Value := many signed [row.id, row.online, row.connected]

/-- Reads the row of a shard. -/
def shard? (value : Value) : Option ShardRow := do
  match ← many? signed? value with
  | [id, online, connected] => some ⟨id, online, connected⟩
  | _ => none

/-- Writes a tally: a double stands in an array of its own. -/
def tally : Tally → Value
  | .exact count => signed count
  | .inexact count => .array [double count]

/-- Reads a tally. -/
def tally? : Value → Option Tally
  | .array [count] => (double? count).map .inexact
  | value => (signed? value).map .exact

/-- Writes a row of the graph table. -/
def graphRow (row : GraphRow) : Value :=
  .array [signed row.id, octets row.entryDate,
    many cell [row.cpu, row.population.users, row.population.servers, row.population.channels,
      row.population.memory, row.population.games, row.platformPing, row.internalPing,
      row.databasePing, row.kicks, row.commands, row.questionsAsked, row.questionCount]]

/-- Reads a row of the graph table. -/
def graphRow? : Value → Option GraphRow
  | .array [id, date, cells] => do
    match ← many? cell? cells with
    | [cpu, users, servers, channels, memory, games, platform, internal, database, kicks, commands,
        asked, count] =>
      return ⟨← signed? id, ← octets? date, cpu, ⟨users, servers, channels, memory, games⟩,
        platform, internal, database, kicks, commands, asked, count⟩
    | _ => none
  | _ => none

/-- Writes the graph table. -/
def graphTable (table : GraphTable) : Value :=
  .array [many text table.added, many graphRow table.rows, whole table.lastId]

/-- Reads the graph table. -/
def graphTable? : Value → Option GraphTable
  | .array [added, rows, last] => do
    return ⟨← many? text? added, ← many? graphRow? rows, ← natural? last⟩
  | _ => none

/-- Writes a guard. -/
def guard (rule : Guard) : Value :=
  .array [text rule.change.keyword, text rule.table.name, text rule.label,
    optional text rule.subscription]

/-- Reads a guard. -/
def guard? : Value → Option Guard
  | .array [change, table, label, subscription] => do
    let keyword ← text? change
    let change ← [Change.insert, .update, .delete].find? fun change ↦ change.keyword = keyword
    return ⟨change, ← text? table >>= Table.ofName?, ← text? label, ← optional? text? subscription⟩
  | _ => none

/-! ## Stores -/

/-- The value that holds a store. -/
def ofStore (store : Store) : Value :=
  .array [optional (many text) store.migrations, optional (many credit) store.credits,
    optional (many cluster) store.clusters, optional (many shard) store.shards,
    optional (fun count ↦ whole (count : Nat)) store.questions,
    optional (many tally) store.counters, optional graphTable store.graphs,
    many guard store.guards]

/-- The store that a value holds. -/
def toStore? : Value → Option Store
  | .array [migrations, credits, clusters, shards, questions, counters, graphs, guards] => do
    return ⟨← optional? (many? text?) migrations, ← optional? (many? credit?) credits,
      ← optional? (many? cluster?) clusters, ← optional? (many? shard?) shards,
      ← optional? natural? questions, ← optional? (many? tally?) counters,
      ← optional? graphTable? graphs, ← many? guard? guards, false⟩
  | _ => none

/-- The text that keeps a store. -/
def save (store : Store) : String := String.ofList ((ofStore store).render ++ ['\n'])

/-- The store that a text keeps; an empty text keeps an empty one. -/
def load? (text : String) : Option Store :=
  if text = "" then some .empty else Value.parse? text.toList >>= toStore?

end BotOps.Store.Snapshot
