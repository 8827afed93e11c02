import BotOps.Failure
import BotOps.Remote.Url

/-!
# Exchanges with a server

Requests are sent to one server and answered in turn. A request to any other server, or one that
cannot be written, fails without being sent.
-/

namespace BotOps.Remote

/-- A request as the server sees it. -/
structure Request where
  target : String
  authorization : Option String
  agent : String
deriving DecidableEq, Repr, Inhabited

/-- An answer and the time that it took. -/
structure Answer where
  status : Nat
  body : String
  millis : UInt64
deriving DecidableEq, Repr, Inhabited

namespace Answer

/-- The answer of a server that has nothing more to say. -/
def exhausted : Answer := ⟨500, "", 0⟩

/-- The text of the body. Some answers have none, and a byte order mark is no part of it. -/
def text (answer : Answer) : String :=
  if answer.status ∈ [101, 204, 304] then ""
  else
    match answer.body.toList with
    | '\ufeff' :: rest => String.ofList rest
    | _ => answer.body

/-- What an answer comes to: a status from 400 to 599 says that the request failed. One below 200
announces an answer that does not come, unless the server changes to another protocol. -/
def outcome (answer : Answer) : Except Failure Answer :=
  if 400 ≤ answer.status ∧ answer.status < 600 then .error (.http (some answer.status))
  else if answer.status = 101 ∨ 200 ≤ answer.status ∧ answer.status < 1000 then .ok answer
  else .error (.http none)

end Answer

/-- A server: where it is, the answers that it will give, and the requests that it got, last one
first. -/
structure Exchange where
  origin : Origin
  answers : List Answer
  requests : List Request
deriving DecidableEq, Repr

/-- A text that can stand in the header of a request: without controls, tabs aside. -/
def isHeaderText (text : String) : Bool :=
  text.toList.all fun c ↦ c = '\t' || (0x20 ≤ c.toNat && c.toNat != 0x7f)

/-- How the requests name their sender. -/
def agentName : String := "DiscordBot (bot-upkeep, 0.1.0)"

namespace Exchange

/-- Sends a request and takes the next answer. -/
def send (request : Request) : StateM Exchange Answer :=
  modifyGet fun exchange ↦
    (exchange.answers.headD .exhausted,
      { exchange with
        answers := exchange.answers.tail, requests := request :: exchange.requests })

/-- Asks for what an address names. Without an authorization the login of the address is shown. -/
def get (address : String) (authorization : Option String) :
    StateM Exchange (Except Failure Answer) := do
  match Url.parse? address with
  | none => return .error (.http none)
  | some url =>
    let exchange ← MonadState.get
    if url.origin.resolved = exchange.origin ∧ authorization.all isHeaderText then
      let shown := authorization <|> url.login.map Login.credential
      let answer ← send ⟨url.target, shown, agentName⟩
      return answer.outcome
    else return .error (.http none)

end Exchange

end BotOps.Remote
