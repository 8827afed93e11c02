import BotOps.Proofs.Preservation

/-!
# Jobs that only observe

A job observes if it leaves the store as it was: all that it does is to ask the world outside and to
report. What it comes to is told along the way in which it is put together, as a result and the
state of the world outside; of its reports only that none is about the failure of a job.
-/

namespace BotOps

open BotOps.Store

/-- Whether a computation fails, and why. -/
def verdict {ε α : Type} (result : Except ε α) : Except ε Unit := result.map fun _ ↦ ()

/-- An event that reports the failure of a job. -/
def Event.isJobFailure : Event → Bool
  | .jobFailed .. => true
  | _ => false

/-- No failure of a job is reported. -/
def Quiet (events : List Event) : Prop := ∀ event ∈ events, event.isJobFailure = false

/-- Events are quiet if they are so in two parts. -/
theorem Quiet.append {first second : List Event} (hfirst : Quiet first) (hsecond : Quiet second) :
    Quiet (first ++ second) :=
  List.forall_mem_append.mpr ⟨hfirst, hsecond⟩

namespace Job

variable {ε σ α β : Type}

/-- A job that observes comes to a result in a store and leaves the world outside in
another state. -/
def Observes (job : Job ε σ α) (store : Store) (outside : σ) (result : Except ε α) (next : σ) :
    Prop :=
  ∀ journal, ∃ events, Quiet events ∧
    job.run ⟨store, journal, outside⟩ = (result, ⟨store, events ++ journal, next⟩)

namespace Observes

variable {store : Store} {outside middle next : σ}

/-- To give an answer observes nothing. -/
protected theorem pure (a : α) :
    Observes (Pure.pure a : Job ε σ α) store outside (.ok a) outside :=
  fun _ ↦ ⟨[], List.forall_mem_nil _, rfl⟩

/-- To fail observes nothing. -/
protected theorem throw (e : ε) :
    Observes (MonadExcept.throw e : Job ε σ α) store outside (.error e) outside :=
  fun _ ↦ ⟨[], List.forall_mem_nil _, rfl⟩

/-- The second part observes from where the first one has led. -/
protected theorem bind {x : Job ε σ α} {f : α → Job ε σ β} {a : α} {result : Except ε β}
    (hx : Observes x store outside (.ok a) middle) (hf : Observes (f a) store middle result next) :
    Observes (x >>= f) store outside result next := by
  intro journal
  obtain ⟨first, hfirst, hrun⟩ := hx journal
  obtain ⟨second, hsecond, hlater⟩ := hf (first ++ journal)
  refine ⟨second ++ first, hsecond.append hfirst, ?_⟩
  rw [run_bind_ok hrun, hlater, List.append_assoc]

/-- Behind a job that fails nothing more is done. -/
protected theorem bind_error {x : Job ε σ α} {e : ε}
    (hx : Observes x store outside (.error e) next) (f : α → Job ε σ β) :
    Observes (x >>= f) store outside (.error e) next := by
  intro journal
  obtain ⟨events, hquiet, hrun⟩ := hx journal
  exact ⟨events, hquiet, run_bind_error hrun f⟩

/-- Any event may be reported but the failure of a job. -/
protected theorem report {event : Event} (h : event.isJobFailure = false) :
    Observes (report event : Job ε σ Unit) store outside (.ok ()) outside :=
  fun _ ↦ ⟨[event], List.forall_mem_singleton.mpr h, rfl⟩

/-- What is done for each item observes nothing if it does not for any of them. -/
protected theorem forM {f : α → Job ε σ Unit}
    (h : ∀ item, Observes (f item) store outside (.ok ()) outside) (items : List α) :
    Observes (items.forM f) store outside (.ok ()) outside := by
  induction items with
  | nil => exact .pure ()
  | cons item items ih => exact .bind (h item) ih

/-- A question moves the world outside on. -/
protected theorem ask (question : StateM σ α) :
    Observes (ask question : Job ε σ α) store outside (.ok (question.run outside).1)
      (question.run outside).2 :=
  fun _ ↦ ⟨[], List.forall_mem_nil _, rfl⟩

/-- An operation that only reads gives its answer. -/
protected theorem attempt {operation : Operation α} (h : BotOps.Keeps (· = store) operation) :
    Observes (attempt operation : Job ε σ (Except StoreError α)) store outside
      (.ok (operation.run store).1) outside := by
  intro journal
  have hstore : (operation.run store).2 = store := h store rfl
  refine ⟨[], List.forall_mem_nil _, ?_⟩
  rw [run_attempt]
  simp only [hstore, List.nil_append]

/-- An operation that only reads gives its answer, or a substitute if it fails. -/
protected theorem attemptOr {operation : Operation α} (h : BotOps.Keeps (· = store) operation)
    {event : StoreError → Event} (hevent : ∀ error, (event error).isJobFailure = false)
    (substitute : α) :
    Observes (attemptOr operation event substitute : Job ε σ α) store outside
      (.ok ((operation.run store).1.toOption.getD substitute)) outside := by
  refine .bind (.attempt h) ?_
  cases (operation.run store).1 with
  | ok answer => exact .pure answer
  | error error => exact .bind (.report (hevent error)) (.pure substitute)

end Observes

end Job

end BotOps
