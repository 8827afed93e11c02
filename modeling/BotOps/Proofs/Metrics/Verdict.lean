import BotOps.Proofs.Metrics.Sampler

/-!
# Why a run fails

Whether a run of the sampler fails, and why, is decided by the logs, by the store, by whether the
load is a number and by the calendar, and never by a round trip: `verdict_run_eq`.
-/

namespace BotOps.Metrics

open BotOps.Config BotOps.Store BotOps.Time

section

variable {σ : Type}

open Job

/-- How a run ends behind the attempt to write its sample. -/
def concluded (settings : Sampling) (clock : Clock) (written : Except StoreError Unit) :
    Except Halt Unit :=
  match written with
  | .error error => .error (.failed (.persistence error))
  | .ok () =>
    if (cutoff? clock.utc settings.retentionHours).isSome then .ok () else .error .outOfCalendar

/-- Finishing fails only where the calendar does not reach back far enough. -/
theorem exists_finish (settings : Sampling) (clock : Clock) (sample : Sample)
    (degraded carried : Bool) (setting : Setting σ) :
    ∃ events result final, Quiet events ∧
      (finish settings clock sample degraded carried).run setting = (result, final) ∧
      final.journal = events ++ setting.journal ∧
      verdict result = concluded settings clock (.ok ()) := by
  unfold finish pruneBefore concluded
  cases cutoff? clock.utc settings.retentionHours with
  | none => exact ⟨[], _, _, List.forall_mem_nil _, rfl, rfl, rfl⟩
  | some cutoff =>
    dsimp only
    rw [run_bind, run_attemptOr]
    rcases (pruneSamples cutoff).run setting.store with ⟨error | pruned, store⟩
    · exact ⟨[_, _], _, _, by simp [Quiet, Event.isJobFailure], rfl, rfl, rfl⟩
    · exact ⟨[_], _, _, by simp [Quiet, Event.isJobFailure], rfl, rfl, rfl⟩

/-- A measured sample is written and finished with, or the store refuses it. -/
theorem exists_write (settings : Sampling) (clock : Clock) (sample : Sample)
    (degraded carried : Bool) (setting : Setting σ) :
    ∃ events result final, Quiet events ∧
      (do
        let written ← attempt (recordSample sample)
        let sample ← require written fun error ↦ .failed (.persistence error)
        finish settings clock sample degraded carried : Job Halt σ Report).run setting =
          (result, final) ∧
      final.journal = events ++ setting.journal ∧
      verdict result =
        concluded settings clock (verdict ((recordSample sample).run setting.store).1) := by
  rw [run_bind_ok (run_attempt _ _)]
  cases hrecord : (recordSample sample).run setting.store with
  | mk written recorded =>
  cases written with
  | error error =>
    rw [run_bind_error (run_require_error _ _ _)]
    exact ⟨[], _, _, List.forall_mem_nil _, rfl, rfl, rfl⟩
  | ok sample =>
    rw [run_bind_ok (run_require_ok _ _ _)]
    exact exists_finish settings clock sample degraded carried { setting with store := recorded }

/-- A run with a pattern fails where the logs cannot be counted, where the store refuses the sample
and where the calendar does not reach back far enough. It reports no failure of a job itself. -/
theorem exists_run {settings : Sampling} {pattern : Pattern.Node}
    (hpattern : settings.pattern = .ok pattern) (probes : Probes σ) (clock : Clock)
    (setting : Setting σ) :
    let load := (probes.load pattern).run setting.outside
    let latencies := (roundTrips settings.environment probes load.2).1
    ∃ events result final, Quiet events ∧
      (run settings probes clock).run setting = (result, final) ∧
      final.journal = events ++ setting.journal ∧
      verdict result = (reported settings probes clock).bind fun counts ↦
        concluded settings clock (verdict ((recordSample
          (measured settings clock (load.1.toOption.getD .zero) latencies setting.store
            counts)).run setting.store).1) := by
  intro load latencies
  obtain ⟨first, hfirst, hprepare⟩ :=
    observes_prepare hpattern probes clock setting.store setting.outside setting.journal
  rw [run_eq]
  cases hcounts : reported settings probes clock with
  | error halt =>
    rw [hcounts] at hprepare
    rw [run_bind_error hprepare]
    exact ⟨first, _, _, hfirst, rfl, rfl, rfl⟩
  | ok counts =>
    rw [hcounts] at hprepare
    rw [run_bind_ok hprepare]
    obtain ⟨second, result, final, hsecond, hwrite, hjournal, hverdict⟩ :=
      exists_write settings clock
        (measured settings clock (load.1.toOption.getD .zero) latencies setting.store counts)
        (seesMissing settings.shardCount setting.store)
        (carried? settings.shardCount setting.store).isSome
        ⟨setting.store, first ++ setting.journal, (roundTrips settings.environment probes load.2).2⟩
    exact ⟨second ++ first, result, final, hsecond.append hfirst, hwrite,
      by rw [hjournal, List.append_assoc], hverdict⟩

/-- A run with a pattern fails for want of a calendar or of a count, or because of the store. -/
theorem halt_cases {settings : Sampling} {pattern : Pattern.Node}
    (hpattern : settings.pattern = .ok pattern) {probes : Probes σ} {clock : Clock}
    {setting : Setting σ} {halt : Halt}
    (h : ((run settings probes clock).run setting).1 = .error halt) :
    halt = .outOfCalendar ∨ halt = .uncountable ∨ ∃ error, halt = .failed (.persistence error) := by
  obtain ⟨-, result, final, -, hrun, -, hverdict⟩ := exists_run hpattern probes clock setting
  rw [hrun] at h
  obtain rfl : result = .error halt := h
  cases hreported : reported settings probes clock with
  | error cause =>
    rw [hreported] at hverdict
    obtain rfl := Except.error.inj hverdict
    unfold reported at hreported
    split at hreported
    · exact .inl (Except.error.inj hreported).symm
    · split at hreported
      · exact .inr (.inl (Except.error.inj hreported).symm)
      · cases hreported
  | ok counts =>
    rw [hreported] at hverdict
    change Except.error halt = concluded settings clock _ at hverdict
    unfold concluded at hverdict
    split at hverdict
    · exact .inr (.inr ⟨_, Except.error.inj hverdict⟩)
    · split at hverdict
      · cases hverdict
      · exact .inl (Except.error.inj hverdict)

/-- A sample is written or refused for a reason in which no number of it but the load counts. -/
theorem verdict_insertSample (first second : Sample) (load : first.cpu.isNaN = second.cpu.isNaN)
    (store : Store) :
    verdict ((insertSample first).run store).1 = verdict ((insertSample second).run store).1 := by
  rw [run_insertSample, run_insertSample]
  cases store.graphs with
  | none => rfl
  | some table =>
    dsimp only
    cases table.lacking? with
    | some column => rfl
    | none =>
      have hrejection : rejection? store table first = rejection? store table second := by
        rw [rejection?, rejection?, breach?_ofSample, breach?_ofSample, load]
      dsimp only
      rw [hrejection]
      cases rejection? store table second <;> rfl

/-- A sample is recorded or refused for a reason in which no number of it but the load counts. -/
theorem verdict_recordSample (first second : Sample) (load : first.cpu.isNaN = second.cpu.isNaN)
    (store : Store) :
    verdict ((recordSample first).run store).1 = verdict ((recordSample second).run store).1 := by
  unfold recordSample
  rw [run_transaction, run_transaction, run_bind, run_bind]
  rcases takeWithin.run store with ⟨error | asked, taken⟩
  · rfl
  · have hinsert := verdict_insertSample { first with questionsAsked := asked }
      { second with questionsAsked := asked } load taken
    dsimp only
    rw [run_bind, run_bind]
    revert hinsert
    rcases (insertSample { first with questionsAsked := asked }).run taken with ⟨_ | _, _⟩ <;>
      rcases (insertSample { second with questionsAsked := asked }).run taken with ⟨_ | _, _⟩ <;>
      simp [verdict, Except.map]

/-- Two runs in the same store that read the same logs, and whose loads are both numbers or both
none, both succeed or fail for the same reason, whatever comes of their round trips. -/
theorem verdict_run_eq {τ : Type} {settings : Sampling} {pattern : Pattern.Node}
    (hpattern : settings.pattern = .ok pattern) {first : Probes σ} {second : Probes τ}
    (logs : first.log = second.log) (clock : Clock) {setting : Setting σ} {other : Setting τ}
    (stores : setting.store = other.store)
    (loads : (((first.load pattern).run setting.outside).1.toOption.getD .zero).isNaN =
      (((second.load pattern).run other.outside).1.toOption.getD .zero).isNaN) :
    verdict ((run settings first clock).run setting).1 =
      verdict ((run settings second clock).run other).1 := by
  obtain ⟨-, _, _, -, hfirst, -, hfirstVerdict⟩ := exists_run hpattern first clock setting
  obtain ⟨-, _, _, -, hsecond, -, hsecondVerdict⟩ := exists_run hpattern second clock other
  have hreported : reported settings first clock = reported settings second clock := by
    unfold reported logsOf
    rw [logs]
  rw [hfirst, hsecond, hfirstVerdict, hsecondVerdict, hreported, stores]
  refine congrArg (reported settings second clock).bind (funext fun counts ↦ ?_)
  refine congrArg (concluded settings clock) (verdict_recordSample _ _ ?_ other.store)
  exact loads

end

end BotOps.Metrics
