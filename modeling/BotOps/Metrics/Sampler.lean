import BotOps.Config.Basic
import BotOps.Job
import BotOps.Store.Census
import BotOps.Store.Graphs

/-!
# The sampler

One run of the sampler writes one sample and removes those that are too old. A measurement that
fails counts as zero and is reported. While shards of the bot are missing the population of the
sample before is carried forward, so that a reconnection does not look like a loss of guilds.
-/

namespace BotOps.Metrics

open BotOps.Config BotOps.Store BotOps.Time

/-- Why a run of the sampler ends early. -/
inductive Halt where
  | failed (failure : Failure)
  /-- A time that is needed lies outside of the calendar. -/
  | outOfCalendar
  /-- The logs report more than can be counted. -/
  | uncountable
deriving DecidableEq, Repr, Inhabited

/-- What the clocks show when a run begins. The logs of the bot are stamped in local time. -/
structure Clock where
  utc : Instant
  zoned : Instant
deriving DecidableEq, Repr, Inhabited

/-- What a run measures outside of the store. -/
structure Probes (σ : Type) where
  /-- The load of the processes that a pattern selects. -/
  load : Pattern.Node → StateM σ (Except Failure Double)
  /-- A round trip to the platform. -/
  platform : StateM σ (Except Failure UInt64)
  /-- A round trip to the bot's own interface, if there is one. -/
  internal : StateM σ (Except Failure (Option UInt64))
  /-- A round trip to the database. -/
  database : UInt64
  /-- The content of the log at a path. -/
  log : String → Except Log.ReadFailure (List UInt8)

section

variable {σ α : Type}

/-- Takes a measurement. One that fails is reported and counts as a substitute. -/
def measure (probe : StateM σ (Except Failure α)) (event : Failure → Event) (substitute : α) :
    Job Halt σ α := do
  match ← Job.ask probe with
  | .ok value => return value
  | .error failure =>
    Job.report (event failure)
    return substitute

/-- Finds out whether shards are missing. Shards of which nothing is known are not. -/
def checkShards (expected : UInt32) : Job Halt σ Bool := do
  match ← Job.attempt shardSummary with
  | .ok summary =>
    if summary.isDegraded expected then Job.report (.shardsDegraded expected summary)
    return summary.isDegraded expected
  | .error error =>
    Job.report (.shardsUnavailable error)
    return false

/-- The population of the sample before, if it is needed and there is one. -/
def previousPopulation (degraded : Bool) : Job Halt σ (Option Population) := do
  if degraded then
    match ← Job.attempt latestSample with
    | .ok (some sample) => return some sample.population
    | .ok none =>
      Job.report .noPreviousSample
      return none
    | .error error =>
      Job.report (.previousSampleUnavailable error)
      return none
  else return none

/-- The population of a sample, and whether it is carried forward. -/
def takePopulation (degraded : Bool) : Job Halt σ (Population × Bool) := do
  match ← previousPopulation degraded with
  | some population => return (population, true)
  | none =>
    let population ← Job.attemptOr aggregate .populationUnavailable .none
    return (population, false)

/-- The latencies of a sample; none is measured locally. -/
def takeLatencies (environment : Environment) (probes : Probes σ) : Job Halt σ Latencies := do
  match environment with
  | .local => return .none
  | .live =>
    let platform ← measure probes.platform .platformPingFailed 0
    let internal ← measure probes.internal .internalPingFailed none
    return ⟨platform, internal.getD 0, probes.database⟩

/-- The reports in the logs of the last minutes. -/
def takeReports (settings : Sampling) (probes : Probes σ) (clock : Clock) :
    Job Halt σ Log.Counts := do
  match Log.Window.endingAt clock.zoned settings.logWindowMinutes with
  | none => throw .outOfCalendar
  | some window =>
    let files := settings.logFiles.map fun path ↦ Log.File.mk path (probes.log path)
    (Log.findings files window).forM fun finding ↦ Job.report (.logFile finding)
    match Log.total files window with
    | none => throw .uncountable
    | some counts => return counts

/-- The instant before which samples are too old. -/
def cutoff? (now : Instant) (retentionHours : UInt32) : Option Instant :=
  now.ago (retentionHours.toNat * 3600)

/-- Removes the samples that are too old. -/
def pruneBefore (settings : Sampling) (clock : Clock) : Job Halt σ Nat := do
  match cutoff? clock.utc settings.retentionHours with
  | none => throw .outOfCalendar
  | some cutoff => Job.attemptOr (pruneSamples cutoff) .pruneFailed 0

/-- Writes one sample and removes those that are too old. -/
def run (settings : Sampling) (probes : Probes σ) (clock : Clock) : Job Halt σ Report := do
  let pattern ← Job.require settings.pattern fun problem ↦ .failed (.config problem)
  let cpu ← measure (probes.load pattern) .loadUnavailable .zero
  let degraded ← checkShards settings.shardCount
  let (population, carriedForward) ← takePopulation degraded
  let latencies ← takeLatencies settings.environment probes
  let counts ← takeReports settings probes clock
  let questionCount ← Job.attemptOr questionBankSize .questionBankUnavailable 0
  let sample : Sample :=
    { entryDate := clock.utc.stored, cpu, population, latencies
      kicks := .ofNat counts.kicks, commands := .ofNat counts.commands
      questionsAsked := 0, questionCount }
  let written ← Job.attempt (recordSample sample)
  let sample ← Job.require written fun error ↦ .failed (.persistence error)
  let pruned ← pruneBefore settings clock
  let report : Report := ⟨sample, degraded, carriedForward, pruned⟩
  Job.report (.sampleWritten report)
  return report

end

end BotOps.Metrics
