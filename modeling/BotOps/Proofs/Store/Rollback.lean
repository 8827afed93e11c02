import BotOps.Proofs.Preservation

/-!
# Failing without a trace

An operation is all or nothing if the store is as it was whenever the operation fails. A statement
is so by itself and a transaction whatever its parts do. Statements that are executed in turn are
not: they fail with the first one that does, and what the others before it did stays done
(`run_inTurn_error_iff`).
-/

namespace BotOps.Store

variable {α β : Type}

/-- An operation that fails leaves the store as it was. -/
def AllOrNothing (operation : Operation α) : Prop :=
  ∀ store error after, operation.run store = (.error error, after) → after = store

/-- A single statement is all or nothing. -/
theorem allOrNothing_execute (statement : Statement α) : AllOrNothing (execute statement) := by
  intro store error after hrun
  rw [run_execute] at hrun
  cases hstatement : statement store with
  | ok reached =>
    rw [hstatement] at hrun
    cases (Prod.mk.inj hrun).1
  | error cause =>
    rw [hstatement] at hrun
    exact (Prod.mk.inj hrun).2.symm

/-- A transaction is all or nothing, whatever its operation is. -/
theorem allOrNothing_transaction (operation : Operation α) :
    AllOrNothing (transaction operation) := by
  intro store error after hrun
  rw [run_transaction] at hrun
  cases hoperation : operation.run store with
  | mk result changed =>
  rw [hoperation] at hrun
  cases result with
  | ok answer => cases (Prod.mk.inj hrun).1
  | error cause => exact (Prod.mk.inj hrun).2.symm

/-- A transaction fails as its operation does, but undoes what that did before. -/
theorem run_transaction_error {operation : Operation α} {store last : Store} {error : StoreError}
    (h : operation.run store = (.error error, last)) :
    (transaction operation).run store = (.error error, store) := by
  rw [run_transaction, h]

/-- A transaction gives what its operation gives. -/
theorem run_transaction_ok {operation : Operation α} {store changed : Store} {answer : α}
    (h : operation.run store = (.ok answer, changed)) :
    (transaction operation).run store = (.ok answer, changed) := by
  rw [run_transaction, h]

/-- A transaction fails only where its operation does. -/
theorem exists_run_of_transaction_error {operation : Operation α} {store after : Store}
    {error : StoreError} (h : (transaction operation).run store = (.error error, after)) :
    ∃ changed, operation.run store = (.error error, changed) := by
  rw [run_transaction] at h
  cases hoperation : operation.run store with
  | mk result changed =>
  rw [hoperation] at h
  cases result with
  | ok answer => cases (Prod.mk.inj h).1
  | error cause =>
    obtain rfl := Except.error.inj (Prod.mk.inj h).1
    exact ⟨changed, rfl⟩

/-- Executes statements one after the other. -/
def inTurn (steps : List (Statement Unit)) : Operation Unit := steps.forM execute

/-- Statements that are executed in turn all succeed and lead from one store to another. -/
inductive Reaches : List (Statement Unit) → Store → Store → Prop where
  | nil (store : Store) : Reaches [] store store
  | cons {step rest store middle last} (first : step store = .ok ((), middle))
      (later : Reaches rest middle last) : Reaches (step :: rest) store last

/-- Statements that lead on from where others have led can be put behind those. -/
theorem Reaches.append {first second : List (Statement Unit)} {store middle last : Store}
    (hfirst : Reaches first store middle) (hsecond : Reaches second middle last) :
    Reaches (first ++ second) store last := by
  induction hfirst with
  | nil => exact hsecond
  | cons hstep _ ih => exact .cons hstep (ih hsecond)

/-- The first of some statements is executed before the others. -/
theorem inTurn_cons (step : Statement Unit) (rest : List (Statement Unit)) :
    inTurn (step :: rest) = (execute step >>= fun _ ↦ inTurn rest) := rfl

/-- One statement in turn is that statement. -/
theorem run_inTurn_singleton (step : Statement Unit) (store : Store) :
    (inTurn [step]).run store = (execute step).run store := by
  rw [inTurn_cons, run_bind]
  rcases (execute step).run store with ⟨error | ⟨⟨⟩⟩, changed⟩ <;> rfl

/-- Statements in turn can be executed in two parts. -/
theorem inTurn_append (first second : List (Statement Unit)) :
    inTurn (first ++ second) = (inTurn first >>= fun _ ↦ inTurn second) :=
  List.forM_append

/-- Statements executed in turn keep what each of them keeps. -/
theorem keeps_inTurn {P : Store → Prop} {steps : List (Statement Unit)}
    (h : ∀ step ∈ steps, Statement.Keeps P step) : Keeps P (inTurn steps) := by
  induction steps with
  | nil => exact .pure ()
  | cons step steps ih =>
    refine .bind (keeps_execute (h step List.mem_cons_self)) fun _ ↦ ih fun later hlater ↦ ?_
    exact h later (List.mem_cons_of_mem _ hlater)

/-- Statements that succeed one after the other succeed in turn. -/
theorem Reaches.run_inTurn {steps : List (Statement Unit)} {store last : Store}
    (h : Reaches steps store last) : (inTurn steps).run store = (.ok (), last) := by
  induction h with
  | nil => rfl
  | cons hstep _ ih => rw [inTurn_cons, run_bind_ok (run_execute_ok hstep), ih]

/-- Statements succeed in turn only if they do so one after the other. -/
theorem Reaches.of_run_inTurn {steps : List (Statement Unit)} {store last : Store}
    (h : (inTurn steps).run store = (.ok (), last)) : Reaches steps store last := by
  induction steps generalizing store with
  | nil =>
    obtain rfl : store = last := (Prod.mk.inj h).2
    exact .nil store
  | cons step steps ih =>
    rw [inTurn_cons, run_bind, run_execute] at h
    cases hstep : step store with
    | error error =>
      rw [hstep] at h
      cases (Prod.mk.inj h).1
    | ok reached =>
      obtain ⟨⟨⟩, middle⟩ := reached
      rw [hstep] at h
      exact .cons hstep (ih h)

/-- Statements fail in turn with the first one that fails, on what those before it left behind. -/
theorem run_inTurn_error_iff {steps : List (Statement Unit)} {store last : Store}
    {error : StoreError} :
    (inTurn steps).run store = (.error error, last) ↔
      ∃ done step rest, steps = done ++ step :: rest ∧ Reaches done store last ∧
        step last = .error error := by
  constructor
  · intro hrun
    induction steps generalizing store with
    | nil => cases hrun
    | cons step steps ih =>
      rw [inTurn_cons, run_bind, run_execute] at hrun
      cases hstep : step store with
      | error cause =>
        rw [hstep] at hrun
        obtain ⟨hcause, rfl⟩ := Prod.mk.inj hrun
        obtain rfl := Except.error.inj hcause
        exact ⟨[], step, steps, rfl, .nil store, hstep⟩
      | ok reached =>
        obtain ⟨⟨⟩, middle⟩ := reached
        rw [hstep] at hrun
        obtain ⟨done, failing, rest, rfl, hdone, hfails⟩ := ih hrun
        exact ⟨step :: done, failing, rest, rfl, .cons hstep hdone, hfails⟩
  · rintro ⟨done, step, rest, rfl, hdone, hfails⟩
    rw [inTurn_append, run_bind_ok hdone.run_inTurn, inTurn_cons,
      run_bind_error (run_execute_error hfails)]

end BotOps.Store
