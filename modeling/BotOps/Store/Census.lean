import BotOps.Store.Basic
import BotOps.Store.Sum

/-!
# Clusters, shards and questions

What the bot and its editors keep in the store and the jobs only read: the population reported by
each cluster, the state of the shards and the bank of questions.
-/

namespace BotOps.Store

open BotOps.Metrics

/-- The sum of one counter over the clusters that are not for development. -/
def censusOf (rows : List ClusterRow) (counter : Population → Int64) : Option Int64 :=
  sumExact? ((rows.filter fun row ↦ row.dev = 0).map fun row ↦ counter row.population)

/-- The population summed over the clusters that are not for development, if all sums fit. -/
def census? (rows : List ClusterRow) : Option Population := do
  let users ← censusOf rows Population.users
  let servers ← censusOf rows Population.servers
  let channels ← censusOf rows Population.channels
  let memory ← censusOf rows Population.memory
  let games ← censusOf rows Population.games
  return { users, servers, channels, memory, games }

/-- The population of the bot. -/
def aggregate : Operation Population :=
  execute do
    match census? (← Statement.content .clusters Store.clusters) with
    | some population => return population
    | none => throw .overflow

/-- Counts the shards, those online and those connected; every number other than 0 says yes. -/
def summarize (rows : List ShardRow) : ShardSummary where
  total := UInt32.ofNat rows.length
  online := UInt32.ofNat (rows.countP fun row ↦ row.online ≠ 0)
  connected := UInt32.ofNat (rows.countP fun row ↦ row.connected ≠ 0)

/-- The state of the shards of the bot. -/
def shardSummary : Operation ShardSummary := do
  let rows ← execute (Statement.content .shards Store.shards)
  return summarize rows

/-- The number of questions in the bank. -/
def questionBankSize : Operation Int64 := do
  let count ← execute (Statement.content .questions Store.questions)
  return Int64.ofNat count

end BotOps.Store
