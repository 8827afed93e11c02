import BotOps.Store.Counter
import BotOps.Time.Stamp

/-!
# The graph table

Samples are kept in a table that other programs made and that may lack some columns. It is read in
the order of the dates of the samples, and samples of one date in the order of their insertion.
-/

namespace BotOps.Store

open BotOps.Metrics BotOps.Text BotOps.Time

/-- The columns that the graph table is created with. -/
def createdColumns : List String :=
  ["id", "entry_date", "cpu", "user_count", "server_count", "channel_count", "memory_usage"]

/-- The columns that a sample is written to, in the order in which statements list them. -/
def sampleColumns : List String :=
  ["entry_date", "cpu", "user_count", "server_count", "channel_count", "memory_usage", "games",
    "discord_ping", "trivia_api_ping", "db_ping", "kicks", "commands", "questions_asked",
    "question_count"]

/-- Two names of one column: upper and lower case do not differ. -/
def sameColumn (a b : String) : Bool :=
  a.toList.map Char.toLower = b.toList.map Char.toLower

/-- A row with 0 in some of the columns that can be added to its table. -/
def GraphRow.zeroed (row : GraphRow) (columns : List String) : GraphRow :=
  let value (column : String) (cell : Cell) : Cell :=
    if columns.any (sameColumn column) then .integer 0 else cell
  { row with
    population := { row.population with games := value "games" row.population.games }
    platformPing := value "discord_ping" row.platformPing
    internalPing := value "trivia_api_ping" row.internalPing
    databasePing := value "db_ping" row.databasePing
    kicks := value "kicks" row.kicks
    commands := value "commands" row.commands
    questionsAsked := value "questions_asked" row.questionsAsked
    questionCount := value "question_count" row.questionCount }

/-! ## Reading a row -/

/-- Reads the value of a column as one of another type. -/
def Cell.readAs {α : Type} (type? : Cell → Option α) (index : Nat) (cell : Cell) :
    Except StoreError α :=
  match type? cell with
  | some value => .ok value
  | none => .error (.mistyped cell.kind index (sampleColumns.getD index ""))

/-- Reads the value of a column of texts. -/
def Octets.read (index : Nat) : Octets → Except StoreError String
  | .text bytes =>
    match Utf8.decode? bytes with
    | some content => .ok (String.ofList content)
    | none => .error (.garbled index (Utf8.defect bytes))
  | .blob _ => .error (.mistyped .blob index (sampleColumns.getD index ""))

/-- Reads the value of a column as a whole number. -/
def Cell.readInteger : Nat → Cell → Except StoreError Int64 := readAs integer?

/-- A number without a sign by one with a sign; a negative one counts as 0. -/
def unsigned (n : Int64) : UInt64 := if n < 0 then 0 else n.toUInt64

/-- The sample that a row keeps. The first column with a value of another type fails. -/
def GraphRow.read (row : GraphRow) : Except StoreError Sample := do
  let entryDate ← row.entryDate.read 0
  let cpu ← row.cpu.readAs Cell.real? 1
  let users ← row.population.users.readInteger 2
  let servers ← row.population.servers.readInteger 3
  let channels ← row.population.channels.readInteger 4
  let memory ← row.population.memory.readInteger 5
  let games ← row.population.games.readInteger 6
  let platform ← row.platformPing.readInteger 7
  let internal ← row.internalPing.readInteger 8
  let database ← row.databasePing.readInteger 9
  let kicks ← row.kicks.readInteger 10
  let commands ← row.commands.readInteger 11
  let questionsAsked ← row.questionsAsked.readInteger 12
  let questionCount ← row.questionCount.readInteger 13
  return {
    entryDate, cpu
    population := { users, servers, channels, memory, games }
    latencies := ⟨unsigned platform, unsigned internal, unsigned database⟩
    kicks := unsigned kicks, commands := unsigned commands
    questionsAsked, questionCount }

/-! ## The table -/

/-- The greatest number that a row can have. -/
def greatestId : Nat := 9223372036854775807

namespace GraphTable

/-- The columns of a graph table in order. -/
def columns (table : GraphTable) : List String := createdColumns ++ table.added

/-- A graph table has a column of a name in any case. -/
def hasColumn (table : GraphTable) (column : String) : Bool := table.columns.any (sameColumn column)

/-- A graph table with one more column, in which all rows have 0. -/
def withColumn (table : GraphTable) (column : String) : GraphTable :=
  { table with
    added := table.added ++ [column]
    rows := table.rows.map fun row ↦ row.zeroed [column] }

/-- The first column of a sample that a graph table lacks. -/
def lacking? (table : GraphTable) : Option String :=
  sampleColumns.find? fun column ↦ !table.hasColumn column

/-- Why a table cannot take in a new row: no number is left for it, or it has no load. -/
def breach? (table : GraphTable) (row : Nat → GraphRow) : Option StoreError :=
  if greatestId ≤ table.lastId then some .full
  else if (row (table.lastId + 1)).cpu.isMissing then
    some (.missingValue (Table.graphs.name ++ ".cpu"))
  else none

/-- A graph table with one more row, which gets the next number. -/
def append (table : GraphTable) (row : Nat → GraphRow) : GraphTable :=
  { table with rows := table.rows ++ [row (table.lastId + 1)], lastId := table.lastId + 1 }

/-- The rows in the order of their dates. -/
def sorted (table : GraphTable) : List GraphRow :=
  table.rows.mergeSort fun a b ↦ a.entryDate ≤ b.entryDate

/-- The later of two rows, the first of which was inserted before the second. -/
def later (best : Option GraphRow) (row : GraphRow) : Option GraphRow :=
  match best with
  | none => some row
  | some best => some (if best.entryDate ≤ row.entryDate then row else best)

/-- The row with the latest date, the one inserted last if there are several. -/
def latest? (table : GraphTable) : Option GraphRow := table.rows.foldl later none

end GraphTable

namespace Statement

/-- The graph table as a statement reads it that reads all columns of a sample. -/
def readGraphs : Statement GraphTable := do
  let table ← content .graphs Store.graphs
  match table.lacking? with
  | some column => throw (.missingColumn column)
  | none => return table

/-- Adds a row to the graph table, and gives its number. -/
def appendGraph (row : Nat → GraphRow) : Statement Nat := do
  let table ← content .graphs Store.graphs
  permit .insert .graphs none true (table.breach? row)
  modify fun store ↦ { store with graphs := some (table.append row) }
  return table.lastId + 1

/-- Adds a row to the graph table that has a value for each column of a sample. -/
def insertGraph (row : Nat → GraphRow) : Statement Nat := do
  let table ← content .graphs Store.graphs
  match table.lacking? with
  | some column => throw (.unknownColumn Table.graphs.name column)
  | none => appendGraph row

/-- Removes the rows of the graph table with a date before another, and counts them. -/
def pruneGraphs (cutoff : String) : Statement Nat := do
  let table ← content .graphs Store.graphs
  let (old, kept) := table.rows.partition fun row : GraphRow ↦ row.entryDate < cutoff
  permit .delete .graphs none (old ≠ []) none
  modify fun store ↦ { store with graphs := some { table with rows := kept } }
  return old.length

end Statement

/-- Writes a sample, and gives the number of its row. -/
def insertSample (sample : Sample) : Operation Nat :=
  execute (Statement.insertGraph fun id ↦ .ofSample id sample)

/-- Moves the counter of questions into a sample and writes the sample. If that fails the counter
keeps its value. -/
def recordSample (sample : Sample) : Operation Sample :=
  transaction do
    let asked ← takeWithin
    let sample := { sample with questionsAsked := asked }
    let _ ← insertSample sample
    return sample

/-- The sample with the latest date. -/
def latestSample : Operation (Option Sample) :=
  execute do
    let table ← Statement.readGraphs
    StateT.lift (table.latest?.mapM GraphRow.read)

/-- All samples in the order of their dates. -/
def listSamples : Operation (List Sample) :=
  execute do
    let table ← Statement.readGraphs
    StateT.lift (table.sorted.mapM GraphRow.read)

/-- Removes the samples dated before an instant, to the second, and counts them. -/
def pruneSamples (cutoff : Instant) : Operation Nat :=
  execute (Statement.pruneGraphs cutoff.stored)

end BotOps.Store
