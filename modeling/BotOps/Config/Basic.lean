import BotOps.Failure
import BotOps.Pattern.Meaning
import BotOps.Text.Blank
import BotOps.Text.Utf8

/-!
# The configuration

The settings of both jobs, and what has to hold of them before a job may run.
-/

namespace BotOps

open BotOps.Text

namespace Config

/-- Where the jobs run. -/
inductive Environment where
  | live
  /-- Without credentials or network; no latency is measured. -/
  | local
deriving DecidableEq, Repr, Inhabited

/-- How the platform is reached. -/
structure Platform where
  applicationId : String
  token : Option String
  baseUrl : String
deriving DecidableEq, Repr, Inhabited

/-- The address of the platform unless the configuration gives another. -/
def Platform.defaultUrl : String := "https://discord.com/api/v10"

/-- The settings of the sampler. -/
structure Sampling where
  environment : Environment
  shardCount : UInt32
  processPattern : String
  logFiles : List String
  logWindowMinutes : UInt32
  retentionHours : UInt32
  internalUrl : Option String
deriving DecidableEq, Repr, Inhabited

namespace Sampling

/-- The pattern of the bot's own processes. -/
def defaultPattern : String := "^\\./bot\\b"

/-- The settings that are in force where the configuration gives none. -/
def default : Sampling where
  environment := .live
  shardCount := 1
  processPattern := defaultPattern
  logFiles := []
  logWindowMinutes := 15
  retentionHours := 24
  internalUrl := none

/-- The pattern that selects processes. -/
def pattern (sampling : Sampling) : Except ConfigProblem Pattern.Node :=
  match Pattern.Node.parse? sampling.processPattern with
  | some node => .ok node
  | none => .error (.badPattern sampling.processPattern)

end Sampling

/-- The plan of new credits unless the configuration gives another. -/
def defaultPlan : String := "triviabot-premium-monthly"

end Config

/-- The settings of both jobs. -/
structure Config where
  databasePath : String
  platform : Config.Platform
  planId : String
  sampling : Config.Sampling
deriving DecidableEq, Repr, Inhabited

namespace Config

/-- Takes the token from the environment if it is there and not blank. -/
def applyEnvironment (config : Config) (lookup : String → Option String) : Config :=
  match (lookup tokenVariable).filter fun token ↦ !isBlankText token with
  | some token => { config with platform := { config.platform with token := some token } }
  | none => config

/-- Checks what has to hold of a configuration; the first problem counts. -/
def validate (config : Config) : Except ConfigProblem Unit := do
  if isBlankText config.platform.applicationId then throw .blankApplication
  if config.databasePath = "" then throw .emptyDatabasePath
  if config.sampling.logWindowMinutes = 0 then throw .emptyLogWindow
  let _ ← config.sampling.pattern

end Config

end BotOps
