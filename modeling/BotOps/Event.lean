import BotOps.Billing.Activity
import BotOps.Billing.Entitlement
import BotOps.Billing.Stats
import BotOps.Failure
import BotOps.Log.Files
import BotOps.Metrics.Sample
import BotOps.Time.Stamp

/-!
# Events

What the jobs report while they run. An event has a level, a message and named fields.
-/

namespace BotOps

open BotOps.Billing BotOps.Metrics BotOps.Store BotOps.Time

/-- Something that a job reports. -/
inductive Event where
  /-- A page of entitlements has come. -/
  | pageFetched (after : UInt64) (records : Nat)
  /-- A timestamp of the platform cannot be read. -/
  | badTimestamp (field value : String)
  /-- A subscription was read, with what could be read of the bounds of its validity. -/
  | subscription (entitlement : Entitlement) (activity : Activity) (start stop : Option Instant)
  /-- All entitlements were read. -/
  | reconciled (stats : Stats)
  | loadUnavailable (failure : Failure)
  | shardsDegraded (expected : UInt32) (summary : ShardSummary)
  | shardsUnavailable (error : StoreError)
  | noPreviousSample
  | previousSampleUnavailable (error : StoreError)
  | populationUnavailable (error : StoreError)
  | platformPingFailed (failure : Failure)
  | internalPingFailed (failure : Failure)
  /-- A log was scanned or skipped. -/
  | logFile (finding : Log.Finding)
  | questionBankUnavailable (error : StoreError)
  | pruneFailed (error : StoreError)
  | sampleWritten (report : Report)
  /-- All migrations are applied. -/
  | schemaUpToDate (applied : Nat)
  | jobFailed (failure : Failure) (command : String)
deriving DecidableEq, Repr

/-- How important an event is. -/
inductive Level where
  | debug
  | info
  | warn
  | error
deriving DecidableEq, Repr, Inhabited

/-- The name of a level. -/
def Level.name : Level → String
  | .debug => "debug"
  | .info => "info"
  | .warn => "warn"
  | .error => "error"

/-- The value of a field. -/
inductive Datum where
  | text (value : String)
  | whole (value : Int)
  | measured (value : Double)
  | truth (value : Bool)
deriving DecidableEq, Repr

namespace Event

/-- The level of an event. -/
def level : Event → Level
  | pageFetched .. => .debug
  | logFile (.scanned ..) => .debug
  | subscription .. => .info
  | reconciled .. => .info
  | noPreviousSample => .info
  | sampleWritten .. => .info
  | schemaUpToDate _ => .info
  | jobFailed .. => .error
  | _ => .warn

/-- The message of an event. -/
def message : Event → String
  | pageFetched .. => "fetched entitlement page"
  | badTimestamp .. => "unparseable timestamp"
  | subscription .. => "subscription"
  | reconciled .. => "entitlements reconciled"
  | loadUnavailable .. => "cpu measurement unavailable"
  | shardsDegraded .. => "shards degraded"
  | shardsUnavailable .. => "shard status unavailable"
  | noPreviousSample => "no previous sample to carry forward"
  | previousSampleUnavailable .. => "previous sample unavailable"
  | populationUnavailable .. => "population counts unavailable"
  | platformPingFailed .. => "platform api ping failed"
  | internalPingFailed .. => "internal api ping failed"
  | logFile (.scanned ..) => "scanning log tail"
  | logFile (.skipped ..) => "skipping log file"
  | questionBankUnavailable .. => "question bank size unavailable"
  | pruneFailed .. => "graph retention prune failed"
  | sampleWritten .. => "graph sample written"
  | schemaUpToDate _ => "schema up to date"
  | jobFailed .. => "job failed"

/-- The field that tells why something failed. -/
def errorField (message : String) : List (String × Datum) := [("error", .text message)]

/-- The fields of the report of a sample. -/
def reportFields (report : Report) : List (String × Datum) :=
  let sample := report.sample
  [("entry_date", .text sample.entryDate), ("cpu", .measured sample.cpu),
    ("users", .whole sample.population.users.toInt),
    ("servers", .whole sample.population.servers.toInt),
    ("channels", .whole sample.population.channels.toInt),
    ("memory", .whole sample.population.memory.toInt),
    ("games", .whole sample.population.games.toInt),
    ("discord_ping", .whole sample.latencies.platform.toNat),
    ("trivia_api_ping", .whole sample.latencies.internal.toNat),
    ("db_ping", .whole sample.latencies.database.toNat),
    ("kicks", .whole sample.kicks.toNat), ("commands", .whole sample.commands.toNat),
    ("questions_asked", .whole sample.questionsAsked.toInt),
    ("question_count", .whole sample.questionCount.toInt), ("degraded", .truth report.degraded),
    ("carried_forward", .truth report.carriedForward), ("pruned", .whole report.pruned)]

/-- The fields of an event. -/
def fields : Event → List (String × Datum)
  | pageFetched after records => [("after", .whole after.toNat), ("records", .whole records)]
  | badTimestamp field value => [("field", .text field), ("value", .text value)]
  | subscription entitlement activity start stop =>
    [("subscription", .text (entitlement.subscriptionId.getD "")),
      ("user", .text (entitlement.userId.getD "")),
      ("guild", .text (entitlement.guildId.getD "")), ("active", .whole activity.flag.toInt),
      ("activity", .text activity.name), ("start", .text (shownOrMissing start)),
      ("end", .text (shownOrMissing stop)), ("kind", .whole entitlement.kind.toNat)]
  | reconciled stats =>
    [("pages", .whole stats.pages), ("seen", .whole stats.seen),
      ("subscriptions", .whole stats.subscriptions), ("skipped", .whole stats.skipped),
      ("inserted", .whole stats.inserted), ("updated", .whole stats.updated)]
  | loadUnavailable failure => errorField failure.message
  | shardsDegraded expected summary =>
    [("expected", .whole expected.toNat), ("online", .whole summary.online.toNat),
      ("connected", .whole summary.connected.toNat)]
  | shardsUnavailable error => errorField error.message
  | noPreviousSample => []
  | previousSampleUnavailable error => errorField error.message
  | populationUnavailable error => errorField error.message
  | platformPingFailed failure => errorField failure.message
  | internalPingFailed failure => errorField failure.message
  | logFile (.scanned path start length) =>
    [("path", .text path), ("start", .whole start), ("len", .whole length)]
  | logFile (.skipped path failure) => ("path", .text path) :: errorField failure.message
  | questionBankUnavailable error => errorField error.message
  | pruneFailed error => errorField error.message
  | sampleWritten report => reportFields report
  | schemaUpToDate applied => [("applied", .whole applied)]
  | jobFailed failure command => errorField failure.message ++ [("command", .text command)]

end Event

end BotOps
