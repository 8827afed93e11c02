import BotOps.Proofs.Metrics.Effect

/-!
# Series of runs

The sampler is started again and again. Each run finds the graph table as the one before has left
it, while other programs may have changed whatever else is in the store: `Consecutive`. What one
successful run measured and what it makes of the store is told by its report: `exists_sampled`.
-/

namespace BotOps.Metrics

open BotOps.Config BotOps.Store BotOps.Time

/-- One run of the sampler: what it was given, the setting that it began in, and the report and the
setting that it ended with. -/
structure Round (σ : Type) where
  settings : Sampling
  probes : Probes σ
  clock : Clock
  before : Setting σ
  report : Report
  after : Setting σ

section

variable {σ : Type}

/-- The run succeeds in this way. -/
def Round.Ran (round : Round σ) : Prop :=
  (run round.settings round.probes round.clock).run round.before = (.ok round.report, round.after)

/-- Successful runs follow each other from one store to another, and only they change the graph
table. -/
inductive Consecutive : Store → List (Round σ) → Store → Prop where
  | nil (store : Store) : Consecutive store [] store
  | cons {store last : Store} {round : Round σ} {rest : List (Round σ)} (ran : round.Ran)
      (found : round.before.store.graphs = store.graphs)
      (later : Consecutive round.after.store rest last) : Consecutive store (round :: rest) last

/-- A row that a run has written: it is there, and all others were there before. -/
def Round.Wrote (round : Round σ) (row : GraphRow) : Prop :=
  ∃ old new, round.before.store.graphs = some old ∧ round.after.store.graphs = some new ∧
    row ∈ new.rows ∧ ∀ other ∈ new.rows, other = row ∨ other ∈ old.rows

/-- Runs that follow each other are two series, one behind the other. -/
theorem Consecutive.exists_append {start last : Store} {first second : List (Round σ)}
    (h : Consecutive start (first ++ second) last) :
    ∃ middle, Consecutive start first middle ∧ Consecutive middle second last := by
  induction first generalizing start with
  | nil => exact ⟨start, .nil start, h⟩
  | cons round first ih =>
    cases h with
    | cons ran found later =>
    obtain ⟨middle, hfirst, hsecond⟩ := ih later
    exact ⟨middle, .cons ran found hfirst, hsecond⟩

/-- Each of the runs that follow each other is one. -/
theorem Consecutive.ran {start last : Store} {rounds : List (Round σ)}
    (h : Consecutive start rounds last) : ∀ round ∈ rounds, round.Ran := by
  induction h with
  | nil => simp
  | cons ran _ _ ih => exact List.forall_mem_cons.mpr ⟨ran, ih⟩

/-- A run that succeeds has measured a sample, recorded it with the questions asked, and removed
what is too old, or failed to. -/
theorem exists_of_run_ok {settings : Sampling} {probes : Probes σ} {clock : Clock}
    {setting final : Setting σ} {report : Report}
    (success : (run settings probes clock).run setting = (.ok report, final)) :
    ∃ measured reached recorded cutoff,
      (prepare settings probes clock).run setting =
        (.ok (measured, report.degraded, report.carriedForward), reached) ∧
      (recordSample measured).run setting.store = (.ok report.sample, recorded) ∧
      cutoff? clock.utc settings.retentionHours = some cutoff ∧
      ((pruneSamples cutoff).run recorded = (.ok report.pruned, final.store) ∨
        ∃ error, (pruneSamples cutoff).run recorded = (.error error, final.store) ∧
          report.pruned = 0) := by
  rw [run_eq] at success
  obtain ⟨⟨measured, degraded, carried⟩, reached, hprepare, hrest⟩ := exists_of_run_bind_ok success
  have hstore := (keeps_prepare settings probes clock).store_eq hprepare
  dsimp only at hrest
  rw [run_bind_ok (Job.run_attempt _ _), hstore] at hrest
  cases hrecord : (recordSample measured).run setting.store with
  | mk result recorded =>
  rw [hrecord] at hrest
  cases result with
  | error error =>
    rw [run_bind_error (Job.run_require_error _ _ _)] at hrest
    cases (Prod.mk.inj hrest).1
  | ok sample =>
    rw [run_bind_ok (Job.run_require_ok _ _ _)] at hrest
    cases hcutoff : cutoff? clock.utc settings.retentionHours with
    | none =>
      unfold finish pruneBefore at hrest
      rw [hcutoff] at hrest
      cases (Prod.mk.inj hrest).1
    | some cutoff =>
      obtain ⟨pruned, ended, hfinish, hprune⟩ := run_finish hcutoff sample degraded carried
        ⟨recorded, reached.journal, reached.outside⟩
      obtain ⟨hreport, rfl⟩ := Prod.mk.inj (hfinish.symm.trans hrest)
      obtain rfl := Except.ok.inj hreport
      exact ⟨measured, reached, recorded, cutoff, hprepare, hrecord, rfl, hprune⟩

/-- A run that succeeds at a time whose year has four digits has had the effect that its report
tells, on a sample that is dated by its clock. -/
theorem exists_sampled {settings : Sampling} {probes : Probes σ} {clock : Clock}
    {setting final : Setting σ} {report : Report} (year : clock.utc.reading.date.HasPlainYear)
    (success : (run settings probes clock).run setting = (.ok report, final)) :
    ∃ measured reached cutoff tallies table,
      (prepare settings probes clock).run setting =
        (.ok (measured, report.degraded, report.carriedForward), reached) ∧
      report.sample = { measured with questionsAsked := report.sample.questionsAsked } ∧
      report.sample.entryDate = clock.utc.stored ∧
      cutoff? clock.utc settings.retentionHours = some cutoff ∧
      Sampled tallies table cutoff report setting.store final.store := by
  obtain ⟨measured, reached, recorded, cutoff, hprepare, hrecord, hcutoff, hprune⟩ :=
    exists_of_run_ok success
  have hdate := (prepare_ok hprepare).1
  rcases recordSample_cases measured setting.store with
    ⟨error, hrefused⟩ | ⟨tallies, asked, table, htakes, hload, hwritten⟩
  · cases (Prod.mk.inj (hrecord.symm.trans hrefused)).1
  · obtain ⟨hsample, rfl⟩ := Prod.mk.inj (hrecord.symm.trans hwritten)
    have hsample : report.sample = { measured with questionsAsked := asked } :=
      Except.ok.inj hsample
    have hnew : ¬ report.sample.entryDate < cutoff.stored := by
      rw [hsample]
      dsimp only
      rw [hdate]
      exact Instant.not_stored_lt_ago year hcutoff
    refine ⟨measured, reached, cutoff, tallies, table, hprepare, by rw [hsample],
      by rw [hsample]; exact hdate, hcutoff, ?_⟩
    rw [← hsample] at hprune
    exact .of_recorded (by rw [hsample]; exact htakes) (by rw [hsample]; exact hload) hnew hprune

/-- After a run that reports a sample the table has the old rows, all or those that are not too old,
and behind them the row of the sample. -/
theorem Sampled.exists_kept {tallies : List Tally} {table : GraphTable} {cutoff : Instant}
    {report : Report} {before after : Store}
    (h : Sampled tallies table cutoff report before after) :
    ∃ kept, (kept = table ∨ kept = table.since cutoff.stored) ∧
      after.graphs = some (kept.append fun id ↦ .ofSample id report.sample) := by
  rcases h.pruned with ⟨-, -, hgraphs⟩ | ⟨-, -, -, hgraphs⟩
  · exact ⟨_, .inr rfl, hgraphs⟩
  · exact ⟨_, .inl rfl, hgraphs⟩

/-- Unless a guard protects the rows those that are too old are removed. -/
theorem Sampled.graphs_of_unguarded {tallies : List Tally} {table : GraphTable} {cutoff : Instant}
    {report : Report} {before after : Store}
    (h : Sampled tallies table cutoff report before after)
    (unguarded : before.guard? .delete .graphs none = none) :
    after.graphs =
      some ((table.since cutoff.stored).append fun id ↦ .ofSample id report.sample) := by
  rcases h.pruned with ⟨-, -, hgraphs⟩ | ⟨error, hprune, -, -⟩
  · exact hgraphs
  · -- The sample that was recorded has neither locked the store nor brought a guard into it.
    have hallowed (touching : Bool) :
        (recording before tallies table report.sample).refusal? .delete .graphs none touching none =
          none :=
      refusal?_eq_none_iff.mpr ⟨h.unlocked, rfl, fun _ ↦ unguarded⟩
    have hwritten : (recording before tallies table report.sample).graphs =
        some (table.append fun id ↦ .ofSample id report.sample) := rfl
    rw [run_pruneSamples hwritten, hallowed] at hprune
    cases (Prod.mk.inj hprune).1

/-- The row of the sample is what such a run has written. -/
theorem Round.Ran.exists_wrote {round : Round σ} (ran : round.Ran)
    (year : round.clock.utc.reading.date.HasPlainYear) :
    ∃ id, round.Wrote (.ofSample id round.report.sample) := by
  obtain ⟨-, -, cutoff, tallies, table, -, -, -, -, hsampled⟩ := exists_sampled year ran
  obtain ⟨kept, hkept, hafter⟩ := hsampled.exists_kept
  refine ⟨kept.lastId + 1, table, _, hsampled.graphs, hafter, ?_, fun other hother ↦ ?_⟩
  · exact List.mem_append_right _ (List.mem_singleton_self _)
  · rcases List.mem_append.mp hother with hold | hnew
    · rcases hkept with rfl | rfl
      · exact .inr hold
      · exact .inr (List.mem_of_mem_filter hold)
    · exact .inl (List.mem_singleton.mp hnew)

end

/-- A run with the probes of which one fails, and the report that it is expected to give. -/
def expectedRound (settings : Sampling) (utc : Instant) (before : Setting Unit)
    (report : Report) : Round Unit where
  settings
  probes := mixedProbes
  clock := ⟨utc, default⟩
  before
  report
  after := ((run settings mixedProbes ⟨utc, default⟩).run before).2

/-- A run that gives the expected report succeeds in this way. -/
theorem ran_expectedRound {settings : Sampling} {utc : Instant} {before : Setting Unit}
    {report : Report}
    (h : ((run settings mixedProbes ⟨utc, default⟩).run before).1 = .ok report) :
    (expectedRound settings utc before report).Ran :=
  Prod.ext h rfl

end BotOps.Metrics
