import BotOps.Event
import BotOps.Store.Basic

/-!
# Jobs

A job works on a store, reports events and asks things of the world outside. Whatever it did
before it failed stays done and reported.
-/

namespace BotOps

open BotOps.Store

/-- What a job works on: the store, the events so far with the latest first, and the world
outside. -/
structure Setting (σ : Type) where
  store : Store
  journal : List Event
  outside : σ

/-- The events in the order in which they were reported. -/
def Setting.events {σ : Type} (setting : Setting σ) : List Event := setting.journal.reverse

/-- A job that may fail for a reason. -/
abbrev Job (ε σ : Type) := ExceptT ε (StateM (Setting σ))

namespace Job

variable {ε σ α : Type}

/-- Reports an event. -/
def report (event : Event) : Job ε σ Unit :=
  modify fun setting ↦ { setting with journal := event :: setting.journal }

/-- Asks something of the world outside. -/
def ask (question : StateM σ α) : Job ε σ α := do
  let setting ← get
  let (answer, outside) := question.run setting.outside
  set { setting with outside }
  return answer

/-- Performs an operation of the store. The answer tells if it failed. -/
def attempt (operation : Operation α) : Job ε σ (Except StoreError α) := do
  let setting ← get
  let (answer, store) := operation.run setting.store
  set { setting with store }
  return answer

/-- Performs an operation of the store. If it fails a substitute takes the place of its answer and
the failure is reported. -/
def attemptOr (operation : Operation α) (event : StoreError → Event) (substitute : α) :
    Job ε σ α := do
  match ← attempt operation with
  | .ok answer => return answer
  | .error error =>
    report (event error)
    return substitute

/-- Goes on with the answer, or fails with what stands for its error. -/
def require {δ : Type} (answer : Except δ α) (cause : δ → ε) : Job ε σ α :=
  match answer with
  | .ok answer => return answer
  | .error error => throw (cause error)

end Job

end BotOps
