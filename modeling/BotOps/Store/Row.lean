import BotOps.Metrics.Sample
import BotOps.Store.Cell

/-!
# Rows

The rows of the tables, and the values that are read from and written to them. A row keeps
integers of 64 bits with a sign; what is written as a number without a sign is kept by its bits.
The graph table is also filled by older programs, so its cells are not taken to have the types of
their columns.
-/

namespace BotOps.Store

open BotOps.Metrics

/-- A credit that a subscription earns. -/
structure Credit where
  userId : Option String
  subscriptionId : String
  guildId : Option String
  active : Bool
  since : String
  planId : String
  paymentFailed : Bool
deriving DecidableEq, Repr, Inhabited

/-- A credit as it is kept. -/
structure CreditRow where
  userId : Option String
  subscriptionId : String
  guildId : Option String
  active : Int64
  since : String
  planId : String
  paymentFailed : Int64
  cancelDate : Option String
  updatedAt : String
deriving DecidableEq, Repr, Inhabited

/-- The number that a truth value is kept as. -/
def flag (b : Bool) : Int64 := if b then 1 else 0

namespace CreditRow

/-- The row that a new credit becomes. -/
def ofCredit (credit : Credit) (now : String) : CreditRow where
  userId := credit.userId
  subscriptionId := credit.subscriptionId
  guildId := credit.guildId
  active := flag credit.active
  since := credit.since
  planId := credit.planId
  paymentFailed := flag credit.paymentFailed
  cancelDate := none
  updatedAt := now

/-- The row after its credit was seen again: only the activity and the date of the update are
taken over. -/
def refresh (row : CreditRow) (credit : Credit) (now : String) : CreditRow :=
  { row with active := flag credit.active, updatedAt := now }

/-- The credit that a row keeps; every number other than 0 counts as true. -/
def credit (row : CreditRow) : Credit where
  userId := row.userId
  subscriptionId := row.subscriptionId
  guildId := row.guildId
  active := row.active ≠ 0
  since := row.since
  planId := row.planId
  paymentFailed := row.paymentFailed ≠ 0

end CreditRow

/-- What a cluster of the bot last reported about its guilds. -/
structure ClusterRow where
  shardId : Int64
  clusterId : Int64
  dev : Int64
  population : Population
deriving DecidableEq, Repr, Inhabited

/-- The state of a shard of the bot. -/
structure ShardRow where
  id : Int64
  online : Int64
  connected : Int64
deriving DecidableEq, Repr, Inhabited

/-- A count of the questions asked: a whole number, or a double once it left the range. -/
inductive Tally where
  | exact (count : Int64)
  | inexact (count : Double)
deriving DecidableEq, Repr, Inhabited

/-- The population counters of a row of the graph table. -/
structure PopulationCells where
  users : Cell
  servers : Cell
  channels : Cell
  memory : Cell
  games : Cell
deriving DecidableEq, Repr, Inhabited

/-- The cells that a population is written to. -/
def PopulationCells.ofPopulation (population : Population) : PopulationCells where
  users := population.users
  servers := population.servers
  channels := population.channels
  memory := population.memory
  games := population.games

instance : Coe Population PopulationCells := ⟨PopulationCells.ofPopulation⟩

/-- A row of the graph table. -/
structure GraphRow where
  id : Int64
  entryDate : Octets
  cpu : Cell
  population : PopulationCells
  platformPing : Cell
  internalPing : Cell
  databasePing : Cell
  kicks : Cell
  commands : Cell
  questionsAsked : Cell
  questionCount : Cell
deriving DecidableEq, Repr, Inhabited

/-- The row that a sample becomes. -/
def GraphRow.ofSample (id : Nat) (sample : Sample) : GraphRow where
  id := .ofNat id
  entryDate := sample.entryDate
  cpu := sample.cpu.stored
  population := sample.population
  platformPing := sample.latencies.platform.toInt64
  internalPing := sample.latencies.internal.toInt64
  databasePing := sample.latencies.database.toInt64
  kicks := sample.kicks.toInt64
  commands := sample.commands.toInt64
  questionsAsked := sample.questionsAsked
  questionCount := sample.questionCount

end BotOps.Store
