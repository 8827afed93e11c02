import BotOps.Command.Program
import BotOps.Proofs.Billing.Stopping
import BotOps.Proofs.Metrics.Reach
import BotOps.Proofs.Metrics.Verdict
import BotOps.Proofs.Remote.Client

/-!
# What a task comes to

The status 2 is for what the configuration is blamed for. Once the store is open only one thing is
left of that: the purchases cannot be asked for without a token. Then nothing is asked and nothing
is done (`run_perform_of_tokenless`). All other steps of a run are blameless: they may fail, but not
with that status (`blameless_perform`).
-/

namespace BotOps.Command

open BotOps.Billing BotOps.Config BotOps.Metrics BotOps.Remote BotOps.Store

/-- The status of a failure is 1 unless the configuration is at fault. -/
theorem exitStatus_cases (failure : Failure) :
    failure.exitStatus = 1 ∨ ∃ problem, failure = .config problem := by
  cases failure with
  | config problem => exact .inr ⟨problem, rfl⟩
  | service | http | persistence => exact .inl rfl

section

variable {ε δ σ α β : Type}

/-- A job goes on as before when its failure is named otherwise. -/
theorem run_renamed (rename : ε → δ) (job : Job ε σ α) (setting : Setting σ) :
    (renamed rename job).run setting =
      ((job.run setting).1.mapError rename, (job.run setting).2) := by
  have hbind (next : Except ε α → StateM (Setting σ) (Except δ α)) :
      (ExceptT.mk (job.run >>= next) : Job δ σ α).run setting =
        (next (job.run setting).1).run (job.run setting).2 := rfl
  unfold renamed
  rw [hbind]
  cases (job.run setting).1 <;> rfl

end

/-- A run of a step may fail, but not so that the configuration is blamed, and it reports no failure
of a job itself. -/
def Blameless {α : Type} (step : Step α) : Prop :=
  ∀ setting, ∃ events result final, Quiet events ∧ step.run setting = (result, final) ∧
    final.journal = events ++ setting.journal ∧
      ∀ fault, result = .error fault → fault.exitStatus ≠ 2

namespace Blameless

variable {α β : Type}

/-- To give an answer is blameless. -/
protected theorem pure (a : α) : Blameless (Pure.pure a : Step α) :=
  fun _ ↦ ⟨[], _, _, List.forall_mem_nil _, rfl, rfl, fun _ h ↦ by cases h⟩

/-- What is blameless in both parts is so as a whole. -/
protected theorem bind {x : Step α} {f : α → Step β} (hx : Blameless x)
    (hf : ∀ a, Blameless (f a)) : Blameless (x >>= f) := by
  intro setting
  obtain ⟨first, result, reached, hfirst, hrun, hjournal, hresult⟩ := hx setting
  cases result with
  | error fault =>
    refine ⟨first, _, _, hfirst, run_bind_error hrun f, hjournal, fun _ hfault ↦ ?_⟩
    exact hresult _ (congrArg Except.error (Except.error.inj hfault))
  | ok a =>
    obtain ⟨second, outcome, final, hsecond, hlater, hreported, houtcome⟩ := hf a reached
    refine ⟨second ++ first, outcome, final, hsecond.append hfirst, ?_, ?_, houtcome⟩
    · rw [run_bind_ok hrun, hlater]
    · rw [hreported, hjournal, List.append_assoc]

/-- To report an event is blameless unless it is the failure of a job. -/
protected theorem report {event : Event} (h : event.isJobFailure = false) :
    Blameless (Job.report event : Step Unit) :=
  fun _ ↦ ⟨[event], _, _, List.forall_mem_singleton.mpr h, rfl, rfl, fun _ h ↦ by cases h⟩

end Blameless

/-- What the store is blamed for is not blamed on the configuration. -/
theorem blameless_inStore {α : Type} (operation : Operation α) : Blameless (inStore operation) := by
  intro setting
  unfold inStore
  rw [run_bind_ok (Job.run_attempt _ _)]
  cases (operation.run setting.store).1 with
  | ok answer =>
    exact ⟨[], _, _, List.forall_mem_nil _, Job.run_require_ok _ _ _, rfl, fun _ h ↦ by cases h⟩
  | error error =>
    refine ⟨[], _, _, List.forall_mem_nil _, Job.run_require_error _ _ _, rfl, fun _ h ↦ ?_⟩
    cases h
    exact (by decide : (1 : UInt8) ≠ 2)

section

variable {config : Config} {surroundings : Surroundings}

/-- Going through the purchases is blameless if asking for them is. -/
theorem blameless_reconcile {source : Source Exchange}
    (hsource : ∀ after server failure, ((source after).run server).1 = .error failure →
      failure.exitStatus = 1) (planId : String) (now : Time.Instant) :
    Blameless (renamed Fault.failed (reconcile planId now source)) := by
  intro setting
  obtain ⟨fetches, events, hpaged, -, hjournal, -⟩ :=
    exists_paged_reconcile planId now source setting
  have hfailure {failure : Failure}
      (h : ((reconcile planId now source).run setting).1 = .error failure) :
      failure.exitStatus = 1 := by
    rcases reconcile_failure h with ⟨after, server, hanswer⟩ | ⟨problem, rfl⟩ | ⟨error, rfl⟩
    · exact hsource after server failure hanswer
    · rfl
    · rfl
  rw [run_renamed]
  generalize (reconcile planId now source).run setting = run at hjournal hfailure
  obtain ⟨result, final⟩ := run
  have hevents : Quiet (events ++ closing result).reverse := by
    have hclosing : Quiet (closing result) := by
      cases result with
      | ok stats => exact List.forall_mem_singleton.mpr rfl
      | error failure => exact List.forall_mem_nil _
    exact fun event hevent ↦ hpaged.quiet.append hclosing event (List.mem_reverse.mp hevent)
  cases result with
  | ok stats => exact ⟨_, _, final, hevents, rfl, hjournal, fun _ h ↦ by cases h⟩
  | error failure =>
    refine ⟨_, _, final, hevents, rfl, hjournal, fun _ h ↦ ?_⟩
    cases h
    change failure.exitStatus ≠ 2
    rw [hfailure rfl]
    decide

/-- A run of the sampler with a valid configuration is blameless. -/
theorem blameless_sampler (valid : config.validate = .ok ()) (probes : Probes Exchange)
    (clock : Clock) :
    Blameless (renamed Fault.ofHalt (Metrics.run config.sampling probes clock)) := by
  intro setting
  obtain ⟨pattern, hpattern⟩ := Config.exists_pattern valid
  obtain ⟨events, result, final, hquiet, hrun, hjournal, -⟩ :=
    exists_run hpattern probes clock setting
  have hhalt (halt : Halt) (h : result = .error halt) := halt_cases hpattern (by rw [hrun, h])
  rw [run_renamed, hrun]
  cases result with
  | ok report => exact ⟨events, _, final, hquiet, rfl, hjournal, fun _ h ↦ by cases h⟩
  | error halt =>
    refine ⟨events, _, final, hquiet, rfl, hjournal, fun _ h ↦ ?_⟩
    cases h
    rcases hhalt halt rfl with rfl | rfl | ⟨error, rfl⟩
    · decide
    · decide
    · exact (by decide : (1 : UInt8) ≠ 2)

/-- A task that asks for nothing, or has a token to ask with, is blameless in a valid
configuration. -/
theorem blameless_perform (valid : config.validate = .ok ()) (surroundings : Surroundings)
    {task : Task} (h : task = .entitlements → config.platform.token ≠ none) :
    Blameless (task.perform config surroundings) := by
  cases task with
  | migrate =>
    exact .bind (blameless_inStore appliedMigrations) fun applied ↦ .report rfl
  | entitlements =>
    obtain ⟨token, htoken⟩ := Option.ne_none_iff_exists'.mp (h rfl)
    have hclient : (Client.ofPlatform config.platform).token = some token := htoken
    exact .bind (blameless_reconcile
      (fun _ _ _ hrun ↦ Client.exitStatus_of_fetchPage hclient hrun) _ _) fun _ ↦ .pure ()
  | graphs => exact .bind (blameless_sampler valid _ _) fun _ ↦ .pure ()

/-- Without a token the purchases are not asked for, and nothing is done. -/
theorem run_perform_of_tokenless (h : config.platform.token = none) (surroundings : Surroundings)
    (setting : Setting Exchange) :
    (Task.entitlements.perform config surroundings).run setting =
      (.error (.failed (.config .missingToken)), setting) := by
  have hclient : (Client.ofPlatform config.platform).token = none := h
  have hreconcile : (reconcile config.planId surroundings.clock.utc
      (Client.ofPlatform config.platform).fetchPage).run setting =
        (.error (.config .missingToken), setting) := by
    rw [run_reconcile, run_pages, Client.run_fetchPage_of_tokenless hclient]
  unfold Task.perform
  refine run_bind_error ?_ _
  rw [run_renamed, hreconcile]
  rfl

/-- Whether the sampler fails, and why, does not depend on the server. -/
theorem verdict_perform_graphs (valid : config.validate = .ok ()) (surroundings : Surroundings)
    (store : Store) (server other : Exchange) :
    verdict ((Task.graphs.perform config surroundings).run ⟨store, [], server⟩).1 =
      verdict ((Task.graphs.perform config surroundings).run ⟨store, [], other⟩).1 := by
  obtain ⟨pattern, hpattern⟩ := Config.exists_pattern valid
  have hperform (server : Exchange) :
      verdict ((Task.graphs.perform config surroundings).run ⟨store, [], server⟩).1 =
        (verdict ((Metrics.run config.sampling (probes config surroundings)
          surroundings.clock).run ⟨store, [], server⟩).1).mapError Fault.ofHalt := by
    unfold Task.perform
    dsimp only
    rw [run_bind, run_renamed]
    rcases (Metrics.run config.sampling (probes config surroundings) surroundings.clock).run
      ⟨store, [], server⟩ with ⟨halt | report, final⟩ <;> rfl
  rw [hperform, hperform]
  exact congrArg (Except.mapError Fault.ofHalt)
    (verdict_run_eq hpattern rfl surroundings.clock rfl rfl)

end

end BotOps.Command
