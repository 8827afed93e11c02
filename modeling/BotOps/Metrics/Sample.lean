import BotOps.Metrics.Double

/-!
# Samples

A sample is what one run of the sampler measures: the load of the processes, the population of the
guilds, the latencies, the reports in the logs and the questions.
-/

namespace BotOps.Metrics

/-- The population counters, summed over the clusters of the bot. -/
structure Population where
  users : Int64
  servers : Int64
  channels : Int64
  memory : Int64
  games : Int64
deriving DecidableEq, Repr, Inhabited

/-- No population. -/
def Population.none : Population := ⟨0, 0, 0, 0, 0⟩

/-- Round trips in whole milliseconds: to the platform, to the bot's own interface and to the
database. -/
structure Latencies where
  platform : UInt64
  internal : UInt64
  database : UInt64
deriving DecidableEq, Repr, Inhabited

/-- No latency was measured. -/
def Latencies.none : Latencies := ⟨0, 0, 0⟩

/-- One row of the graph table. -/
structure Sample where
  entryDate : String
  cpu : Double
  population : Population
  latencies : Latencies
  kicks : UInt64
  commands : UInt64
  questionsAsked : Int64
  questionCount : Int64
deriving DecidableEq, Repr, Inhabited

/-- How many shards the bot has, and how many of them are online and connected. -/
structure ShardSummary where
  total : UInt32
  online : UInt32
  connected : UInt32
deriving DecidableEq, Repr, Inhabited

/-- The shards are degraded when fewer than expected are online or fewer are connected. -/
def ShardSummary.isDegraded (summary : ShardSummary) (expected : UInt32) : Bool :=
  summary.online < expected || summary.connected < expected

/-- The sample that a run wrote and how it came about. -/
structure Report where
  sample : Sample
  degraded : Bool
  /-- The population is that of the sample before. -/
  carriedForward : Bool
  /-- How many old samples were removed. -/
  pruned : Nat
deriving DecidableEq, Repr, Inhabited

end BotOps.Metrics
