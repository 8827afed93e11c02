import BotOps.Job

/-!
# Running jobs and operations

What one run of a job or of an operation gives, for each of the ways in which jobs and operations
are put together. Later modules rewrite with these equations and open no monad.
-/

namespace BotOps

open BotOps.Store

section

variable {ε τ α β : Type}

/-- To give an answer does nothing else. -/
@[simp] theorem run_pure (a : α) (s : τ) : (pure a : ExceptT ε (StateM τ) α).run s = (.ok a, s) :=
  rfl

/-- To fail does nothing else. -/
@[simp] theorem run_throw (e : ε) (s : τ) :
    (throw e : ExceptT ε (StateM τ) α).run s = (.error e, s) := rfl

/-- The second part runs on what the first one leaves, unless the first one fails. -/
theorem run_bind (x : ExceptT ε (StateM τ) α) (f : α → ExceptT ε (StateM τ) β) (s : τ) :
    (x >>= f).run s =
      match x.run s with
      | (.ok a, s') => (f a).run s'
      | (.error e, s') => (.error e, s') := by
  change (match x.run s with | (r, s') => ExceptT.bindCont f r s') = _
  rcases x.run s with ⟨r, s'⟩
  cases r <;> rfl

/-- Where the first part succeeds the second one runs. -/
theorem run_bind_ok {x : ExceptT ε (StateM τ) α} {s s' : τ} {a : α} (h : x.run s = (.ok a, s'))
    (f : α → ExceptT ε (StateM τ) β) : (x >>= f).run s = (f a).run s' := by
  rw [run_bind, h]

/-- Where the first part fails the second one does not run. -/
theorem run_bind_error {x : ExceptT ε (StateM τ) α} {s s' : τ} {e : ε}
    (h : x.run s = (.error e, s')) (f : α → ExceptT ε (StateM τ) β) :
    (x >>= f).run s = (.error e, s') := by
  rw [run_bind, h]

/-- Where the whole succeeds both parts do. -/
theorem exists_of_run_bind_ok {x : ExceptT ε (StateM τ) α} {f : α → ExceptT ε (StateM τ) β}
    {s s' : τ} {b : β} (h : (x >>= f).run s = (.ok b, s')) :
    ∃ a reached, x.run s = (.ok a, reached) ∧ (f a).run reached = (.ok b, s') := by
  rw [run_bind] at h
  cases hx : x.run s with
  | mk result reached =>
  rw [hx] at h
  cases result with
  | ok a => exact ⟨a, reached, rfl, h⟩
  | error e => cases (Prod.mk.inj h).1

end

namespace Job

variable {ε σ α : Type}

/-- A report puts its event on top of the journal. -/
@[simp] theorem run_report (event : Event) (setting : Setting σ) :
    (report event : Job ε σ Unit).run setting =
      (.ok (), { setting with journal := event :: setting.journal }) := rfl

/-- A question changes the world outside only. -/
@[simp] theorem run_ask (question : StateM σ α) (setting : Setting σ) :
    (ask question : Job ε σ α).run setting =
      (.ok (question.run setting.outside).1,
        { setting with outside := (question.run setting.outside).2 }) := rfl

/-- An attempt changes the store as its operation does, and succeeds whether or not that does. -/
@[simp] theorem run_attempt (operation : Operation α) (setting : Setting σ) :
    (attempt operation : Job ε σ (Except StoreError α)).run setting =
      (.ok (operation.run setting.store).1,
        { setting with store := (operation.run setting.store).2 }) := rfl

/-- What is required and there is given. -/
@[simp] theorem run_require_ok {δ : Type} (a : α) (cause : δ → ε) (setting : Setting σ) :
    (require (.ok a) cause : Job ε σ α).run setting = (.ok a, setting) := rfl

/-- What is required and failed is the failure of the job. -/
@[simp] theorem run_require_error {δ : Type} (d : δ) (cause : δ → ε) (setting : Setting σ) :
    (require (.error d) cause : Job ε σ α).run setting = (.error (cause d), setting) := rfl

/-- A substitute takes the place of an answer that does not come. -/
theorem run_attemptOr (operation : Operation α) (event : StoreError → Event) (substitute : α)
    (setting : Setting σ) :
    (attemptOr operation event substitute : Job ε σ α).run setting =
      match operation.run setting.store with
      | (.ok answer, store) => (.ok answer, { setting with store })
      | (.error error, store) =>
        (.ok substitute, { setting with store, journal := event error :: setting.journal }) := by
  unfold attemptOr
  rw [run_bind_ok (run_attempt _ _)]
  rcases operation.run setting.store with ⟨error | answer, store⟩ <;> rfl

/-- Reported events come to the journal last one first. -/
theorem run_forM_report (events : List Event) (setting : Setting σ) :
    (events.forM report : Job ε σ Unit).run setting =
      (.ok (), { setting with journal := events.reverse ++ setting.journal }) := by
  induction events generalizing setting with
  | nil => rfl
  | cons event events ih =>
    change (report event >>= fun _ ↦ events.forM report).run setting = _
    rw [run_bind_ok (run_report event setting), ih]
    simp

end Job

namespace Store

variable {α : Type}

/-- A statement gives its answer and its store, or fails and leaves the store as it was. -/
theorem run_execute (statement : Statement α) (store : Store) :
    (execute statement).run store =
      match statement store with
      | .ok (answer, changed) => (.ok answer, changed)
      | .error error => (.error error, store) := rfl

/-- A statement that succeeds gives its answer and its store. -/
theorem run_execute_ok {statement : Statement α} {store changed : Store} {a : α}
    (h : statement store = .ok (a, changed)) :
    (execute statement).run store = (.ok a, changed) := by
  rw [run_execute, h]

/-- A statement that fails leaves the store as it was. -/
theorem run_execute_error {statement : Statement α} {store : Store} {error : StoreError}
    (h : statement store = .error error) :
    (execute statement).run store = (.error error, store) := by
  rw [run_execute, h]

/-- A transaction gives what its operation gives, but a failure leaves the store as it was. -/
theorem run_transaction (operation : Operation α) (store : Store) :
    (transaction operation).run store =
      match operation.run store with
      | (.ok answer, changed) => (.ok answer, changed)
      | (.error error, _) => (.error error, store) := rfl

end Store

end BotOps
