import BotOps.Proofs.Metrics.Measuring
import BotOps.Proofs.Store.Counter

/-!
# One run of the sampler

A run first measures, then records its sample, and then prunes: `run_halts_or_finishes`. What it
does to the counter is decided by the record alone: `run_cases`.
-/

namespace BotOps.Metrics

open BotOps.Config BotOps.Store BotOps.Time

section

variable {σ : Type} {P : Store → Prop}

/-- What a run does once its sample is written. -/
def finish (settings : Sampling) (clock : Clock) (sample : Sample) (degraded carried : Bool) :
    Job Halt σ Report := do
  let pruned ← pruneBefore settings clock
  let report : Report := ⟨sample, degraded, carried, pruned⟩
  Job.report (.sampleWritten report)
  return report

/-- A run measures, records and finishes. -/
theorem run_eq (settings : Sampling) (probes : Probes σ) (clock : Clock) :
    run settings probes clock = (do
      let (sample, degraded, carried) ← prepare settings probes clock
      let written ← Job.attempt (recordSample sample)
      let sample ← Job.require written fun error ↦ .failed (.persistence error)
      finish settings clock sample degraded carried) := by
  unfold run prepare finish
  simp only [bind_assoc, pure_bind]

/-- Finishing reports the sample and removes those that are too old. If that fails none counts as
removed. -/
theorem run_finish {settings : Sampling} {clock : Clock} {cutoff : Instant}
    (h : cutoff? clock.utc settings.retentionHours = some cutoff) (sample : Sample)
    (degraded carried : Bool) (setting : Setting σ) :
    ∃ pruned final,
      (finish settings clock sample degraded carried).run setting =
        (.ok ⟨sample, degraded, carried, pruned⟩, final) ∧
      ((pruneSamples cutoff).run setting.store = (.ok pruned, final.store) ∨
        ∃ error, (pruneSamples cutoff).run setting.store = (.error error, final.store) ∧
          pruned = 0) := by
  unfold finish pruneBefore
  rw [h, run_bind, Job.run_attemptOr]
  cases hprune : (pruneSamples cutoff).run setting.store with
  | mk result store =>
  cases result with
  | error error => exact ⟨0, _, rfl, .inr ⟨error, rfl, rfl⟩⟩
  | ok pruned => exact ⟨pruned, _, rfl, .inl rfl⟩

/-- Finishing fails only where the calendar does not reach back to the samples that are too old, and
then it does nothing. Otherwise it gives the report of the sample and keeps the counter. -/
theorem finish_cases (settings : Sampling) (clock : Clock) (sample : Sample)
    (degraded carried : Bool) (setting : Setting σ) :
    (finish settings clock sample degraded carried).run setting =
        (.error .outOfCalendar, setting) ∨
      ∃ pruned final,
        (finish settings clock sample degraded carried).run setting =
          (.ok ⟨sample, degraded, carried, pruned⟩, final) ∧
        ∀ n, HasCounter n setting.store → HasCounter n final.store := by
  cases hcutoff : cutoff? clock.utc settings.retentionHours with
  | none =>
    unfold finish pruneBefore
    rw [hcutoff]
    exact .inl rfl
  | some cutoff =>
    have hkeeps (n : Int64) :=
      keeps_pruneSamples (P := HasCounter n) (fun _ _ h ↦ h) cutoff setting.store
    obtain ⟨pruned, final, hrun, hprune | ⟨error, hprune, -⟩⟩ :=
      run_finish hcutoff sample degraded carried setting
    · rw [hprune] at hkeeps
      exact .inr ⟨pruned, final, hrun, hkeeps⟩
    · rw [hprune] at hkeeps
      exact .inr ⟨pruned, final, hrun, hkeeps⟩

/-- A run writes to the counter and to the graph table only. -/
theorem keeps_run (graphs : ∀ store table, P store → P { store with graphs := table })
    (counters : ∀ store rows, P store → P { store with counters := rows }) (settings : Sampling)
    (probes : Probes σ) (clock : Clock) : Job.Keeps P (run settings probes clock) := by
  have hprune : Job.Keeps P (pruneBefore settings clock : Job Halt σ Nat) := by
    unfold pruneBefore
    split
    · exact .throw _
    · exact Job.keeps_attemptOr (keeps_pruneSamples graphs _) _ _
  rw [run_eq]
  refine .bind (keeps_prepare settings probes clock) fun prepared ↦ ?_
  refine .bind (Job.keeps_attempt (keeps_recordSample graphs counters _)) fun written ↦ ?_
  refine .bind (Job.keeps_require _ _) fun sample ↦ .bind hprune fun pruned ↦ ?_
  exact .bind (Job.keeps_report _) fun _ ↦ .pure _

/-- A run either fails and leaves the store as it was, or records a sample that is dated by the
clock and finishes. -/
theorem run_halts_or_finishes (settings : Sampling) (probes : Probes σ) (clock : Clock)
    (setting : Setting σ) :
    (∃ halt final, (run settings probes clock).run setting = (.error halt, final) ∧
      final.store = setting.store) ∨
    ∃ measured sample degraded carried recorded,
      measured.entryDate = clock.utc.stored ∧
      (recordSample measured).run setting.store = (.ok sample, recorded.store) ∧
      (run settings probes clock).run setting =
        (finish settings clock sample degraded carried).run recorded := by
  rw [run_eq, run_bind]
  have hread := keeps_prepare (P := (· = setting.store)) settings probes clock setting rfl
  cases hprepare : (prepare settings probes clock).run setting with
  | mk result reached =>
  rw [hprepare] at hread
  have hstore : reached.store = setting.store := hread
  cases result with
  | error halt => exact .inl ⟨halt, reached, rfl, hstore⟩
  | ok prepared =>
    obtain ⟨measured, degraded, carried⟩ := prepared
    have hdated := (prepare_ok hprepare).1
    dsimp only
    rw [run_bind_ok (Job.run_attempt _ _), hstore]
    rcases recordSample_cases measured setting.store with
      ⟨error, hrecord⟩ | ⟨tallies, asked, table, -, -, hrecord⟩
    · rw [hrecord, run_bind_error (Job.run_require_error _ _ _)]
      exact .inl ⟨_, _, rfl, rfl⟩
    · rw [hrecord, run_bind_ok (Job.run_require_ok _ _ _)]
      exact .inr ⟨measured, _, degraded, carried, _, hdated, hrecord, rfl⟩

/-- A run either reports a sample that has the whole count, or leaves the store as it was, or is cut
short by the calendar after its sample was written. -/
theorem run_cases {n : Int64} (settings : Sampling) (probes : Probes σ) (clock : Clock)
    {setting : Setting σ} (h : HasCounter n setting.store) :
    (∃ report final, (run settings probes clock).run setting = (.ok report, final) ∧
      report.sample.questionsAsked = n ∧ HasCounter 0 final.store) ∨
    (∃ halt final, (run settings probes clock).run setting = (.error halt, final) ∧
      final.store = setting.store) ∨
    ∃ (final : Setting σ) (sample : Sample) (table : GraphTable),
      (run settings probes clock).run setting = (.error .outOfCalendar, final) ∧
      HasCounter 0 final.store ∧ setting.store.graphs = some table ∧
        final.store.graphs = some (table.append fun id ↦
          .ofSample id { sample with questionsAsked := n }) := by
  rcases run_halts_or_finishes settings probes clock setting with
    hhalt | ⟨measured, sample, degraded, carried, recorded, -, hrecord, hrun⟩
  · exact .inr (.inl hhalt)
  · rcases h.recordSample_cases measured with ⟨error, hrefused⟩ | ⟨table, hgraphs, hwritten⟩
    · cases (Prod.mk.inj (hrecord.symm.trans hrefused)).1
    · obtain ⟨hsample, hstore⟩ := Prod.mk.inj (hrecord.symm.trans hwritten)
      obtain rfl := Except.ok.inj hsample
      have hempty : HasCounter 0 recorded.store := by rw [hstore]; rfl
      rw [hrun]
      rcases finish_cases settings clock _ degraded carried recorded with
        hfinish | ⟨pruned, final, hfinish, hkeeps⟩
      · exact .inr (.inr ⟨recorded, measured, table, hfinish, hempty, hgraphs, by rw [hstore]⟩)
      · exact .inl ⟨_, final, hfinish, rfl, hkeeps 0 hempty⟩

end

end BotOps.Metrics
