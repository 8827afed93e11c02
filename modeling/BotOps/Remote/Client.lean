import BotOps.Billing.Page
import BotOps.Billing.Reconcile
import BotOps.Config.Basic
import BotOps.Remote.Exchange

/-!
# The client of the platform

Two things are asked of the platform: its entitlements, page by page, and a sign of life, whose
round trip is timed. A third address may name the bot's own interface.
-/

namespace BotOps.Remote

open BotOps.Billing

/-- How the platform is reached. -/
structure Client where
  baseUrl : String
  applicationId : String
  token : Option String
deriving DecidableEq, Repr, Inhabited

namespace Client

/-- A text without the slashes at its end. -/
def dropSlashes (text : String) : String :=
  String.ofList (text.toList.reverse.dropWhile (· == '/')).reverse

/-- The client of a configured platform. -/
def ofPlatform (platform : Config.Platform) : Client :=
  ⟨dropSlashes platform.baseUrl, platform.applicationId, platform.token⟩

/-- The address of the entitlements behind a cursor. -/
def entitlementsUrl (client : Client) (after : UInt64) : String :=
  client.baseUrl ++ "/applications/" ++ client.applicationId ++
    "/entitlements?exclude_ended=false&limit=" ++ toString pageSize ++ "&after=" ++
    toString after.toNat

/-- The address that gives a sign of life. -/
def pingUrl (client : Client) : String := client.baseUrl ++ "/users/@me"

/-- Asks for what an address of the platform names. That needs a token. -/
def authorizedGet (client : Client) (address : String) :
    StateM Exchange (Except Failure Answer) :=
  match client.token with
  | none => return .error (.config .missingToken)
  | some token => Exchange.get address (some ("Bot " ++ token))

/-- The page that an answer holds. -/
def pageOf (answer : Answer) : Except Failure (List Entitlement) :=
  match decodePage? answer.text with
  | some page => .ok page
  | none => .error (.service .malformedPage)

/-- Fetches the page of entitlements behind a cursor. -/
def fetchPage (client : Client) : Source Exchange := fun after ↦ do
  let answer ← client.authorizedGet (client.entitlementsUrl after)
  return answer >>= pageOf

/-- Times a round trip to the platform. -/
def platformPing (client : Client) : StateM Exchange (Except Failure UInt64) := do
  let answer ← client.authorizedGet client.pingUrl
  return answer.map Answer.millis

/-- Times a round trip to the bot's own interface, if it has an address. -/
def internalPing (address : Option String) : StateM Exchange (Except Failure (Option UInt64)) :=
  match address with
  | none => return .ok none
  | some address => do
    let answer ← Exchange.get address none
    return answer.map fun answer ↦ some answer.millis

end Client

end BotOps.Remote
