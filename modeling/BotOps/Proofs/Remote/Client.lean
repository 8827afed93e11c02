import BotOps.Remote.Client

/-!
# Requests and their failures

What a request makes of the server (`run_get`), and for which reasons asking the platform fails.
With a token the configuration is none of them; without one nothing is asked.
-/

namespace BotOps.Remote

/-- An answer that says so is a failed request. -/
theorem exists_http_of_outcome {answer : Answer} {failure : Failure}
    (h : answer.outcome = .error failure) : ∃ status, failure = .http status := by
  unfold Answer.outcome at h
  split at h
  · exact ⟨_, (Except.error.inj h).symm⟩
  · split at h
    · cases h
    · exact ⟨_, (Except.error.inj h).symm⟩

/-- A request that can be written and reaches the server takes its next answer; any other fails. -/
theorem run_get (address : String) (authorization : Option String) (server : Exchange) :
    (Exchange.get address authorization).run server =
      match Url.parse? address with
      | none => (.error (.http none), server)
      | some url =>
        if url.origin.resolved = server.origin ∧ authorization.all isHeaderText then
          ((server.answers.headD .exhausted).outcome,
            { server with
              answers := server.answers.tail
              requests := ⟨url.target, authorization <|> url.login.map Login.credential,
                agentName⟩ :: server.requests })
        else (.error (.http none), server) := by
  unfold Exchange.get
  cases Url.parse? address with
  | none => rfl
  | some url =>
    change (ite _ _ _ : StateM Exchange (Except Failure Answer)).run server = _
    dsimp only
    split <;> rfl

/-- A request fails as a request. -/
theorem exists_http_of_get {address : String} {authorization : Option String} {server : Exchange}
    {failure : Failure}
    (h : ((Exchange.get address authorization).run server).1 = .error failure) :
    ∃ status, failure = .http status := by
  rw [run_get] at h
  split at h
  · exact ⟨none, (Except.error.inj h).symm⟩
  · split at h
    · exact exists_http_of_outcome h
    · exact ⟨none, (Except.error.inj h).symm⟩

namespace Client

variable {client : Client}

/-- Without a token nothing is asked. -/
theorem run_fetchPage_of_tokenless (h : client.token = none) (after : UInt64) (server : Exchange) :
    (client.fetchPage after).run server = (.error (.config .missingToken), server) := by
  unfold fetchPage authorizedGet
  rw [h]
  rfl

/-- With a token the page behind a cursor is in the answer to a request. -/
theorem fst_run_fetchPage {token : String} (h : client.token = some token) (after : UInt64)
    (server : Exchange) :
    ((client.fetchPage after).run server).1 =
      ((Exchange.get (client.entitlementsUrl after) (some ("Bot " ++ token))).run server).1 >>=
        pageOf := by
  unfold fetchPage authorizedGet
  rw [h]
  dsimp only
  -- What is asked plays no part, and is not to be evaluated.
  generalize Exchange.get (client.entitlementsUrl after) (some ("Bot " ++ token)) = request
  rfl

/-- With a token a page may not come, or be none; the configuration is not blamed for that. -/
theorem exitStatus_of_fetchPage {token : String} (h : client.token = some token) {after : UInt64}
    {server : Exchange} {failure : Failure}
    (hrun : ((client.fetchPage after).run server).1 = .error failure) :
    failure.exitStatus = 1 := by
  rw [fst_run_fetchPage h] at hrun
  cases hanswer :
      ((Exchange.get (client.entitlementsUrl after) (some ("Bot " ++ token))).run server).1 with
  | error cause =>
    obtain ⟨status, rfl⟩ := exists_http_of_get hanswer
    rw [hanswer] at hrun
    obtain rfl := Except.error.inj hrun
    rfl
  | ok answer =>
    rw [hanswer] at hrun
    change pageOf answer = .error failure at hrun
    unfold pageOf at hrun
    split at hrun
    · cases hrun
    · obtain rfl := Except.error.inj hrun
      rfl

end Client

end BotOps.Remote
