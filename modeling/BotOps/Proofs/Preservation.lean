import BotOps.Proofs.Store.Statement

/-!
# What stays as it is

A computation keeps a property of what it works on if the property still holds after each of its
runs, failed ones included. Keeping is shown along the way in which a computation is put together,
so what only reads the store is found to keep every property of it.
-/

namespace BotOps

open BotOps.Store

section

variable {ε τ α β : Type} {P : τ → Prop}

/-- A property that holds before a run holds after it, whether or not the run fails. -/
def Keeps (P : τ → Prop) (x : ExceptT ε (StateM τ) α) : Prop := ∀ s, P s → P (x.run s).2

namespace Keeps

/-- To give an answer keeps everything. -/
protected theorem pure (a : α) : Keeps P (Pure.pure a : ExceptT ε (StateM τ) α) := fun _ h ↦ h

/-- To fail keeps everything. -/
protected theorem throw (e : ε) : Keeps P (MonadExcept.throw e : ExceptT ε (StateM τ) α) :=
  fun _ h ↦ h

/-- What both parts keep the whole keeps. -/
protected theorem bind {x : ExceptT ε (StateM τ) α} {f : α → ExceptT ε (StateM τ) β}
    (hx : Keeps P x) (hf : ∀ a, Keeps P (f a)) : Keeps P (x >>= f) := by
  intro s hs
  have hnext := hx s hs
  rw [run_bind]
  cases hrun : x.run s with
  | mk result s' =>
  rw [hrun] at hnext
  cases result with
  | error e => exact hnext
  | ok a => exact hf a s' hnext

end Keeps

end

namespace Store

variable {α β : Type} {P : Store → Prop}

/-- A property that holds before a statement holds after it if it succeeds. -/
def Statement.Keeps (P : Store → Prop) (x : Statement α) : Prop :=
  ∀ store a changed, P store → x store = .ok (a, changed) → P changed

namespace Statement.Keeps

/-- To give an answer keeps everything. -/
protected theorem pure (a : α) : Statement.Keeps P (Pure.pure a : Statement α) := by
  rintro store a changed h hrun
  obtain ⟨-, rfl⟩ := Prod.mk.inj (Except.ok.inj hrun)
  exact h

/-- To fail keeps everything. -/
protected theorem throw (error : StoreError) :
    Statement.Keeps P (MonadExcept.throw error : Statement α) := by
  intro store a changed h hrun
  cases hrun

/-- An answer that is there already, or a failure, keeps everything. -/
protected theorem lift (answer : Except StoreError α) :
    Statement.Keeps P (StateT.lift answer : Statement α) := by
  rintro store a changed h hrun
  cases answer with
  | error error => cases hrun
  | ok answer =>
    obtain ⟨-, rfl⟩ := Prod.mk.inj (Except.ok.inj hrun)
    exact h

/-- To look at the store keeps everything. -/
protected theorem get : Statement.Keeps P (get : Statement Store) := by
  rintro store a changed h hrun
  obtain ⟨-, rfl⟩ := Prod.mk.inj (Except.ok.inj hrun)
  exact h

/-- A change keeps what it keeps as a function. -/
protected theorem modify {change : Store → Store} (h : ∀ store, P store → P (change store)) :
    Statement.Keeps P (modify change : Statement Unit) := by
  rintro store a changed hstore hrun
  obtain ⟨-, rfl⟩ := Prod.mk.inj (Except.ok.inj hrun)
  exact h store hstore

/-- What both parts keep the whole keeps. -/
protected theorem bind {x : Statement α} {f : α → Statement β} (hx : Statement.Keeps P x)
    (hf : ∀ a, Statement.Keeps P (f a)) : Statement.Keeps P (x >>= f) := by
  intro store b changed hstore hrun
  rw [bind_apply] at hrun
  cases hfirst : x store with
  | error error => simp [hfirst] at hrun
  | ok reached =>
    obtain ⟨a, middle⟩ := reached
    rw [hfirst] at hrun
    exact hf a middle b changed (hx store a middle hstore hfirst) hrun

/-- To read a table keeps everything. -/
protected theorem content (table : Table) (select : Store → Option α) :
    Statement.Keeps P (content table select) := by
  refine Statement.Keeps.bind .get fun store ↦ ?_
  split
  · exact .pure _
  · exact .throw _

/-- To ask for permission keeps everything. -/
protected theorem permit {change : Change} {table : Table} {subscription : Option String}
    {touching : Bool} {breach : Option StoreError} :
    Statement.Keeps P (permit change table subscription touching breach) := by
  refine Statement.Keeps.bind .get fun store ↦ ?_
  split
  · exact .pure _
  · exact .throw _

/-- To fail on a locked store keeps everything. -/
protected theorem unlock : Statement.Keeps P unlock := by
  refine Statement.Keeps.bind .get fun store ↦ ?_
  split
  · exact .throw _
  · exact .pure _

/-- A table that is made anew is the only thing that its creation changes. -/
protected theorem create {table : Table}
    (h : ∀ store : Store, store.has table = false → P store → P (store.withNew table)) :
    Statement.Keeps P (create table) := by
  intro store answer changed hstore hrun
  rw [create_apply] at hrun
  split at hrun
  · obtain ⟨-, rfl⟩ := Prod.mk.inj (Except.ok.inj hrun)
    exact hstore
  · next hmissing =>
    split at hrun
    · cases hrun
    · obtain ⟨-, rfl⟩ := Prod.mk.inj (Except.ok.inj hrun)
      exact h store (Bool.eq_false_iff.mpr hmissing) hstore

end Statement.Keeps

/-- What a statement keeps its execution keeps, as a failure leaves no trace. -/
theorem keeps_execute {statement : Statement α} (h : Statement.Keeps P statement) :
    Keeps P (execute statement) := by
  intro store hstore
  rw [run_execute]
  cases hrun : statement store with
  | error error => exact hstore
  | ok reached => exact h store reached.1 reached.2 hstore hrun

/-- An operation that fails in a transaction keeps everything. -/
theorem keeps_transaction {operation : Operation α} (h : Keeps P operation) :
    Keeps P (transaction operation) := by
  intro store hstore
  have hchanged := h store hstore
  rw [run_transaction]
  cases hrun : operation.run store with
  | mk result changed =>
  rw [hrun] at hchanged
  cases result with
  | error error => exact hstore
  | ok a => exact hchanged

end Store

namespace Job

variable {ε σ α : Type} {P : Store → Prop}

/-- A property of the store that holds before a job holds after it, whether or not the job fails. -/
abbrev Keeps (P : Store → Prop) (job : Job ε σ α) : Prop :=
  BotOps.Keeps (fun setting : Setting σ ↦ P setting.store) job

/-- What keeps every property of the store leaves the store alone. -/
theorem Keeps.store_eq {job : Job ε σ α} {setting reached : Setting σ} {result : Except ε α}
    (h : Job.Keeps (· = setting.store) job) (hrun : job.run setting = (result, reached)) :
    reached.store = setting.store := by
  have hstore := h setting rfl
  rwa [hrun] at hstore

/-- A report keeps everything. -/
theorem keeps_report (event : Event) : Job.Keeps P (report event : Job ε σ Unit) := fun _ h ↦ h

/-- To require an answer keeps everything. -/
theorem keeps_require {δ : Type} (answer : Except δ α) (cause : δ → ε) :
    Job.Keeps P (require answer cause : Job ε σ α) := by
  cases answer with
  | ok a => exact fun _ h ↦ h
  | error d => exact fun _ h ↦ h

/-- An attempt keeps what its operation keeps. -/
theorem keeps_attempt {operation : Operation α} (h : BotOps.Keeps P operation) :
    Job.Keeps P (attempt operation : Job ε σ (Except StoreError α)) :=
  fun setting hstore ↦ h setting.store hstore

/-- An attempt with a substitute for its answer does so too. -/
theorem keeps_attemptOr {operation : Operation α} (h : BotOps.Keeps P operation)
    (event : StoreError → Event) (substitute : α) :
    Job.Keeps P (attemptOr operation event substitute : Job ε σ α) := by
  refine Keeps.bind (keeps_attempt h) fun answer ↦ ?_
  split
  · exact Keeps.pure _
  · exact Keeps.bind (keeps_report _) fun _ ↦ Keeps.pure _

end Job

end BotOps
