import BotOps.Store.Error
import BotOps.Text.Quoted

/-!
# Failures of a job

A job fails because its configuration is at fault, because the platform answers with something
unusable, because a request fails, or because the store does. The configuration's failures end the
program with status 2 and all others with status 1.
-/

namespace BotOps

open BotOps.Store BotOps.Text

/-- The variable of the environment that may hold the token. -/
def tokenVariable : String := "BOT_UPKEEP_TOKEN"

/-- What is wrong with a configuration. -/
inductive ConfigProblem where
  /-- The file cannot be read. -/
  | unreadable (path : String)
  /-- The file is no configuration. -/
  | malformed (path : String)
  | blankApplication
  | emptyDatabasePath
  | emptyLogWindow
  /-- The pattern for processes is none. -/
  | badPattern (pattern : String)
  /-- The database cannot be opened. -/
  | noDatabase (path : String)
  /-- A request needs a token and there is none. -/
  | missingToken
deriving DecidableEq, Repr, Inhabited

/-- The text of a problem; what a library would add stays away. -/
def ConfigProblem.message : ConfigProblem → String
  | .unreadable path => "read config " ++ path ++ ": "
  | .malformed path => "config " ++ path ++ ": "
  | .blankApplication => "discord.application_id must not be empty"
  | .emptyDatabasePath => "database.path must not be empty"
  | .emptyLogWindow => "sampler.log_window_minutes must be at least 1"
  | .badPattern pattern => "invalid sampler.process_pattern " ++ quote pattern ++ ": "
  | .noDatabase path => "open database " ++ path ++ ": "
  | .missingToken => "discord.token is not set (or export " ++ tokenVariable ++ ")"

/-- What is wrong with an answer from outside. -/
inductive ServiceProblem where
  /-- The body of a page is no list of entitlements. -/
  | malformedPage
  /-- The identifier of an entitlement is no number. -/
  | badIdentifier (id : String)
  /-- A full page ends no later than it begins. -/
  | noProgress (after : UInt64)
  /-- A service reports a problem of its own. -/
  | reported (text : String)
deriving DecidableEq, Repr, Inhabited

/-- The text of a problem. -/
def ServiceProblem.message : ServiceProblem → String
  | .malformedPage => "malformed entitlement page: "
  | .badIdentifier id => "entitlement id " ++ quote id ++ " is not numeric"
  | .noProgress after => "entitlement pagination did not advance past " ++ toString after
  | .reported text => text

/-- Why a job fails. -/
inductive Failure where
  | config (problem : ConfigProblem)
  | service (problem : ServiceProblem)
  /-- A request fails; if the server answered, with its status. -/
  | http (status : Option Nat)
  | persistence (error : StoreError)
deriving DecidableEq, Repr, Inhabited

namespace Failure

/-- The text of a failure. -/
def message : Failure → String
  | .config problem => "configuration error: " ++ problem.message
  | .service problem => "external service error: " ++ problem.message
  | .http none => "http error: no answer"
  | .http (some status) => "http error: status " ++ toString status
  | .persistence error => "persistence error: " ++ error.message

/-- The status with which the program ends after a failure. -/
def exitStatus : Failure → UInt8
  | .config _ => 2
  | _ => 1

end Failure

end BotOps
