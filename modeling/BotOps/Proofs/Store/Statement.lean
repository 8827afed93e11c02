import BotOps.Proofs.Job

/-!
# Executing statements

What one statement makes of a store. A statement that fails gives no store at all, so each equation
tells either the error or the answer together with the new store.
-/

namespace BotOps.Store.Statement

variable {α β : Type}

/-- The second part is executed on what the first one leaves, unless the first one fails. -/
theorem bind_apply (x : Statement α) (f : α → Statement β) (store : Store) :
    (x >>= f) store =
      match x store with
      | .ok (a, changed) => f a changed
      | .error error => .error error := by
  change (x store >>= fun p ↦ f p.1 p.2) = _
  rcases x store with error | ⟨a, changed⟩ <;> rfl

/-- Where the first part succeeds the second one is executed. -/
theorem bind_ok {x : Statement α} {store changed : Store} {a : α}
    (h : x store = .ok (a, changed)) (f : α → Statement β) : (x >>= f) store = f a changed := by
  rw [bind_apply, h]

/-- Where the first part fails the whole fails. -/
theorem bind_error {x : Statement α} {store : Store} {error : StoreError}
    (h : x store = .error error) (f : α → Statement β) : (x >>= f) store = .error error := by
  rw [bind_apply, h]

/-- Looking at the store leaves it as it is. -/
theorem bind_get (f : Store → Statement α) (store : Store) :
    ((get : Statement Store) >>= f) store = f store store := rfl

/-- The content of a table that is there. -/
theorem content_some {table : Table} {select : Store → Option α} {store : Store} {rows : α}
    (h : select store = some rows) : content table select store = .ok (rows, store) := by
  unfold content
  rw [bind_get, h]
  rfl

/-- The content of a table that is missing. -/
theorem content_none {table : Table} {select : Store → Option α} {store : Store}
    (h : select store = none) :
    content table select store = .error (.missingTable table.name) := by
  unfold content
  rw [bind_get, h]
  rfl

section

variable {change : Change} {table : Table} {subscription : Option String} {touching : Bool}
  {breach : Option StoreError} {store : Store}

/-- A change that the store does not refuse. -/
theorem permit_none (h : store.refusal? change table subscription touching breach = none) :
    permit change table subscription touching breach store = .ok ((), store) := by
  unfold permit
  rw [bind_get, h]
  rfl

/-- A change that the store refuses. -/
theorem permit_some {error : StoreError}
    (h : store.refusal? change table subscription touching breach = some error) :
    permit change table subscription touching breach store = .error error := by
  unfold permit
  rw [bind_get, h]
  rfl

end

/-- Only a locked store stays closed. -/
theorem unlock_apply (store : Store) :
    unlock store = if store.locked then .error .locked else .ok ((), store) := by
  unfold unlock
  rw [bind_get]
  cases store.locked <;> rfl

/-- A table that is not there is made anew unless the store is locked. -/
theorem create_apply (table : Table) (store : Store) :
    create table store =
      if store.has table then .ok ((), store)
      else if store.locked then .error .locked
      else .ok ((), store.withNew table) := by
  unfold create
  rw [bind_get]
  cases store.has table with
  | true => rfl
  | false =>
    simp only [Bool.not_false, if_true, Bool.false_eq_true, if_false]
    rw [bind_apply, unlock_apply]
    cases store.locked <;> rfl

end BotOps.Store.Statement

namespace BotOps.Store

section

variable {store : Store} {change : Change} {table : Table} {subscription : Option String}
  {touching : Bool} {breach : Option StoreError}

/-- A change is not refused by a store that is not locked if it breaks no rule and no guard forbids
it. -/
theorem refusal?_eq_none_iff :
    store.refusal? change table subscription touching breach = none ↔
      store.locked = false ∧ breach = none ∧
        (touching = true → store.guard? change table subscription = none) := by
  unfold refusal?
  cases store.locked <;> cases breach <;> cases touching <;> simp

end

end BotOps.Store
