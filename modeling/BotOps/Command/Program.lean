import BotOps.Command.Arguments
import BotOps.Config.Decode
import BotOps.Metrics.Load
import BotOps.Metrics.Sampler
import BotOps.Remote.Client
import BotOps.Store.Migration
import BotOps.Store.Opening

/-!
# The program

One run of the program: the arguments name a task and a configuration, the database is opened and
migrated, and the task is done. Whatever the run reads is given to it beforehand, and whatever it
leaves behind is part of how it ends.
-/

namespace BotOps.Command

open BotOps.Metrics BotOps.Remote BotOps.Store

/-- What a run finds around it. -/
structure Surroundings where
  /-- The variables of the environment. -/
  lookup : String → Option String
  /-- The content of the file at a path. -/
  read : String → Except Log.ReadFailure (List UInt8)
  /-- What comes of opening the database that a text locates. -/
  opening : String → Opening
  processes : List RunningProcess
  clock : Clock

/-- Why a task was not done. -/
inductive Fault where
  | failed (failure : Failure)
  /-- The run broke down. -/
  | crashed
deriving DecidableEq, Repr, Inhabited

/-- The status with which the program ends after a fault. -/
def Fault.exitStatus : Fault → UInt8
  | .failed failure => failure.exitStatus
  | .crashed => 101

/-- The name of a task in the log. -/
def Task.name : Task → String
  | .entitlements => "Entitlements"
  | .graphs => "Graphs"
  | .migrate => "Migrate"

/-- A step of a run: it talks to the platform and changes the store. -/
abbrev Step := Job Fault Exchange

/-- The fault that ends a run of the sampler early. -/
def Fault.ofHalt : Halt → Fault
  | .failed failure => .failed failure
  | .outOfCalendar => .crashed
  | .uncountable => .crashed

/-- Changes how the failure of a job is named. -/
def renamed {ε δ σ α : Type} (rename : ε → δ) (job : Job ε σ α) : Job δ σ α :=
  ExceptT.mk (do
    match ← job.run with
    | .ok answer => return .ok answer
    | .error error => return .error (rename error))

/-- Does something in the store that must not fail. -/
def inStore {α : Type} (operation : Operation α) : Step α := do
  let answer ← Job.attempt operation
  Job.require answer fun error ↦ .failed (.persistence error)

/-- What the sampler measures in a run. -/
def probes (config : Config) (surroundings : Surroundings) : Probes Exchange where
  load pattern := return .ok (loadOf surroundings.processes pattern)
  platform := (Client.ofPlatform config.platform).platformPing
  internal := Client.internalPing config.sampling.internalUrl
  database := 0
  log := surroundings.read

/-- Does a task in a migrated store. -/
def Task.perform (task : Task) (config : Config) (surroundings : Surroundings) : Step Unit := do
  match task with
  | .migrate =>
    let applied ← inStore appliedMigrations
    Job.report (.schemaUpToDate applied.length)
  | .entitlements =>
    let client := Client.ofPlatform config.platform
    let _ ← renamed Fault.failed
      (Billing.reconcile config.planId surroundings.clock.utc client.fetchPage)
  | .graphs =>
    let _ ← renamed Fault.ofHalt
      (Metrics.run config.sampling (probes config surroundings) surroundings.clock)

/-- Migrates the store and does a task in it. -/
def work (task : Task) (config : Config) (surroundings : Surroundings) : Step Unit := do
  inStore migrate
  task.perform config surroundings

/-- How a run ends: the status, the store with the text that locates it if one was opened, the
events, and the server. -/
structure Ending where
  status : UInt8
  kept : Option (String × Store)
  events : List Event
  server : Exchange

/-- The end of a run whose steps are taken in a store. -/
def Step.ending (step : Step Unit) (task : Task) (path : String) (store : Store)
    (server : Exchange) : Ending :=
  let (result, setting) := step.run ⟨store, [], server⟩
  let ended (status : UInt8) (events : List Event) : Ending :=
    ⟨status, some (path, setting.store), setting.events ++ events, setting.outside⟩
  match result with
  | .ok _ => ended 0 []
  | .error (.failed failure) => ended failure.exitStatus [.jobFailed failure task.name]
  | .error .crashed => ended Fault.crashed.exitStatus []

/-- The run of arguments that name a task. -/
def Arguments.run (arguments : Arguments) (surroundings : Surroundings) (server : Exchange) :
    Ending :=
  let failedEarly (problem : ConfigProblem) : Ending :=
    let failure := Failure.config problem
    ⟨failure.exitStatus, none, [.jobFailed failure arguments.task.name], server⟩
  match Config.load arguments.config (surroundings.read arguments.config).toOption
      surroundings.lookup with
  | .error problem => failedEarly problem
  | .ok config =>
    let path := config.databasePath
    match surroundings.opening path with
    | .refused => failedEarly (.noDatabase path)
    | .ready store =>
      (work arguments.task config surroundings).ending arguments.task path store server

/-- A run of the program with the arguments behind its name. -/
def run (arguments : List String) (surroundings : Surroundings) (server : Exchange) : Ending :=
  match Arguments.parse arguments with
  | .error refusal => ⟨refusal.exitStatus, none, [], server⟩
  | .ok arguments => arguments.run surroundings server

end BotOps.Command
