import BotOps.Proofs.Metrics.Reach
import BotOps.Proofs.Metrics.Verdict
import BotOps.Proofs.Store.Census

/-!
# The population of a sample

What the store sums up of the clusters is exact or is missing, and a run for which it is missing
writes its row without a population: `aggregate_exact`. No census keeps a run from writing its row
that has all else it needs: `Ready.exists_run`.
-/

namespace BotOps.Metrics

open BotOps.Config BotOps.Store BotOps.Time

section

variable {σ : Type} {settings : Sampling} {probes : Probes σ} {clock : Clock} {setting : Setting σ}
  {table : GraphTable} {population : Population} {sample : Sample} {result : Except Halt Report}
  {after : Store}

/-- What a run needs to write its row: a pattern and a load that is a number, reports that can be
counted, and a store that takes samples. -/
structure Ready (settings : Sampling) (probes : Probes σ) (clock : Clock) (setting : Setting σ)
    (table : GraphTable) : Prop where
  load : ∃ pattern, settings.pattern = .ok pattern ∧
    (((probes.load pattern).run setting.outside).1.toOption.getD .zero).isNaN = false
  reports : ∃ counts, reported settings probes clock = .ok counts
  store : ∃ tallies asked, TakesSamples setting.store tallies asked table

/-- How a run ends that writes a row with a population, and the store that it leaves. -/
structure Wrote (settings : Sampling) (clock : Clock) (table : GraphTable) (population : Population)
    (sample : Sample) (result : Except Halt Report) (after : Store) : Prop where
  date : sample.entryDate = clock.utc.stored
  population : sample.population = population
  /-- The run fails only where the calendar does not reach back as far as samples are kept. -/
  ends : verdict result = concluded settings clock (.ok ())
  report : ∀ report, result = .ok report → report.sample = sample
  /-- A row is appended for the sample, and none goes but those before the cutoff. -/
  graphs : after.graphs = some (table.append fun id ↦ .ofSample id sample) ∨
    ∃ cutoff, cutoff? clock.utc settings.retentionHours = some cutoff ∧
      after.graphs = some ((table.append fun id ↦ .ofSample id sample).since cutoff.stored)

/-- The row that a run has written is not too old. -/
theorem Wrote.kept (h : Wrote settings clock table population sample result after)
    (year : clock.utc.reading.date.HasPlainYear) :
    ∃ rows, after.graphs = some ⟨table.added, rows, table.lastId + 1⟩ ∧
      GraphRow.ofSample (table.lastId + 1) sample ∈ rows := by
  rcases h.graphs with hgraphs | ⟨cutoff, hcutoff, hgraphs⟩
  · exact ⟨_, hgraphs, List.mem_append_right _ (List.mem_singleton_self _)⟩
  · have hnew : ¬ sample.entryDate < cutoff.stored := by
      rw [h.date]
      exact Instant.not_stored_lt_ago year hcutoff
    rw [GraphTable.since_append hnew] at hgraphs
    exact ⟨_, hgraphs, List.mem_append_right _ (List.mem_singleton_self _)⟩

/-- Removing samples takes the rows before the cutoff or none. -/
theorem graphs_of_pruneSamples {store : Store} (hgraphs : store.graphs = some table)
    {cutoff : Instant} {pruned : Except StoreError Nat}
    (hprune : (pruneSamples cutoff).run store = (pruned, after)) :
    after.graphs = some table ∨ after.graphs = some (table.since cutoff.stored) := by
  rw [run_pruneSamples hgraphs] at hprune
  split at hprune
  · obtain ⟨-, rfl⟩ := Prod.mk.inj hprune
    exact .inl hgraphs
  · obtain ⟨-, rfl⟩ := Prod.mk.inj hprune
    exact .inr rfl

/-- Behind a row that was appended a run removes at most the rows before the cutoff. -/
theorem exists_finish_wrote (settings : Sampling) (sample : Sample)
    (date : sample.entryDate = clock.utc.stored) (degraded carried : Bool)
    (hgraphs : setting.store.graphs = some (table.append fun id ↦ .ofSample id sample)) :
    ∃ result final,
      (finish settings clock sample degraded carried).run setting = (result, final) ∧
      Wrote settings clock table sample.population sample result final.store := by
  cases hcutoff : cutoff? clock.utc settings.retentionHours with
  | none =>
    refine ⟨.error .outOfCalendar, setting, ?_, date, rfl, ?_, ?_, .inl hgraphs⟩
    · unfold finish pruneBefore
      rw [hcutoff]
      rfl
    · rw [concluded, hcutoff]
      rfl
    · intro report hreport
      cases hreport
  | some cutoff =>
    obtain ⟨pruned, final, hfinish, hprune⟩ := run_finish hcutoff sample degraded carried setting
    have hstore : ∃ answer, (pruneSamples cutoff).run setting.store = (answer, final.store) := by
      rcases hprune with hprune | ⟨error, hprune, -⟩
      · exact ⟨_, hprune⟩
      · exact ⟨_, hprune⟩
    obtain ⟨answer, hanswer⟩ := hstore
    refine ⟨.ok ⟨sample, degraded, carried, pruned⟩, final, hfinish, date, rfl, ?_, ?_, ?_⟩
    · rw [concluded, hcutoff]
      rfl
    · intro report hreport
      rw [← Except.ok.inj hreport]
    · rcases graphs_of_pruneSamples hgraphs hanswer with hall | hsince
      · exact .inl hall
      · exact .inr ⟨cutoff, hcutoff, hsince⟩

/-- A store that takes samples gets a row for each measured sample whose load is a number. -/
theorem exists_write_wrote (settings : Sampling) (sample : Sample) (setting : Setting σ)
    {tallies : List Tally} {asked : Int64}
    (takes : TakesSamples setting.store tallies asked table) (load : sample.cpu.isNaN = false)
    (date : sample.entryDate = clock.utc.stored) (degraded carried : Bool) :
    ∃ written result final,
      (do
        let written ← Job.attempt (recordSample sample)
        let sample ← Job.require written fun error ↦ .failed (.persistence error)
        finish settings clock sample degraded carried : Job Halt σ Report).run setting =
          (result, final) ∧
      Wrote settings clock table sample.population written result final.store := by
  rw [run_bind_ok (Job.run_attempt _ _), takes.run_recordSample load,
    run_bind_ok (Job.run_require_ok _ _ _)]
  exact ⟨{ sample with questionsAsked := asked },
    exists_finish_wrote settings { sample with questionsAsked := asked } date degraded carried rfl⟩

/-- A run that has what it needs writes its row, with the population that is carried forward or else
with that of the clusters as far as it is known. -/
theorem Ready.exists_run (h : Ready settings probes clock setting table) :
    ∃ sample result final, (run settings probes clock).run setting = (result, final) ∧
      Wrote settings clock table ((carried? settings.shardCount setting.store).getD
        (freshPopulation setting.store)) sample result final.store := by
  obtain ⟨⟨pattern, hpattern, hload⟩, ⟨counts, hcounts⟩, tallies, asked, htakes⟩ := h
  obtain ⟨events, -, hprepare⟩ :=
    observes_prepare hpattern probes clock setting.store setting.outside setting.journal
  rw [hcounts] at hprepare
  rw [run_eq, run_bind_ok hprepare]
  generalize (probes.load pattern).run setting.outside = load at hload ⊢
  exact exists_write_wrote settings
    (measured settings clock (load.1.toOption.getD .zero)
      (roundTrips settings.environment probes load.2).1 setting.store counts)
    ⟨setting.store, events ++ setting.journal, (roundTrips settings.environment probes load.2).2⟩
    htakes hload rfl (seesMissing settings.shardCount setting.store)
    (carried? settings.shardCount setting.store).isSome

end

/-- For every table of clusters: a population that the store gives has the exact sums over the
clusters that are not for development; where these have no counters below 0 it gives none just if
one of the sums is beyond 2^63 - 1; and the clusters for development make no difference at all. A
run that carries nothing forward and gets no population from the store, but has all else it needs,
still writes its row, with all counters 0, and the row is not one of those that it removes. -/
theorem aggregate_exact {rows : List ClusterRow} {store : Store}
    (clusters : store.clusters = some rows) :
    (∀ population, (aggregate.run store).1 = .ok population →
      ∀ counter ∈ Population.counters, (counter population).toInt = exactCensus rows counter) ∧
    (CountsUp rows →
      ((∃ error, (aggregate.run store).1 = .error error) ↔
        ∃ counter ∈ Population.counters, 2 ^ 63 - 1 < exactCensus rows counter)) ∧
    (∀ (other : Store) (others : List ClusterRow), other.clusters = some others →
      ((others.filter fun row ↦ row.dev = 0) = rows.filter fun row ↦ row.dev = 0) →
      (aggregate.run other).1 = (aggregate.run store).1) ∧
    ∀ (σ : Type) (settings : Sampling) (probes : Probes σ) (clock : Clock) (setting : Setting σ)
      (table : GraphTable), setting.store = store →
      (∃ error, (aggregate.run store).1 = .error error) →
      carried? settings.shardCount store = none → Ready settings probes clock setting table →
      ∃ sample result final, (run settings probes clock).run setting = (result, final) ∧
        Wrote settings clock table ⟨0, 0, 0, 0, 0⟩ sample result final.store ∧
        (clock.utc.reading.date.HasPlainYear →
          ∃ kept, final.store.graphs = some ⟨table.added, kept, table.lastId + 1⟩ ∧
            GraphRow.ofSample (table.lastId + 1) sample ∈ kept) := by
  have hmissing : (∃ error, (aggregate.run store).1 = .error error) ↔ census? rows = none := by
    rw [run_aggregate clusters]
    cases census? rows <;> simp
  refine ⟨?_, ?_, ?_, ?_⟩
  · intro population h counter hcounter
    apply toInt_of_census?_eq_some _ hcounter
    rw [run_aggregate clusters] at h
    split at h
    · next known hknown =>
      obtain rfl := Except.ok.inj h
      exact hknown
    · cases h
  · intro hsigns
    rw [hmissing]
    exact census?_eq_none_iff hsigns
  · intro other others hothers hsame
    rw [run_aggregate clusters, run_aggregate hothers, census?_congr hsame]
    cases census? rows <;> rfl
  · rintro σ settings probes clock setting table rfl ⟨error, herror⟩ hfresh hready
    obtain ⟨sample, result, final, hrun, hwrote⟩ := hready.exists_run
    have hpopulation : freshPopulation setting.store = .none := by
      rw [freshPopulation, herror]
      rfl
    rw [hfresh, hpopulation] at hwrote
    exact ⟨sample, result, final, hrun, hwrote, hwrote.kept⟩

/-- Two clusters whose users together are too many, and one for development with even more. -/
def crowd : List ClusterRow :=
  [⟨0, 0, 0, ⟨9223372036854775807, 1, 2, 3, 4⟩⟩, ⟨1, 0, 1, ⟨9223372036854775807, -5, 0, 0, 0⟩⟩,
    ⟨2, 1, 0, ⟨1, 1, 2, 3, 4⟩⟩]

/-- A store with some clusters and without samples. -/
def crowded (rows : List ClusterRow) : Store := { sampleless with clusters := some rows }

/-- Settings that keep samples as long as is always possible. -/
def patient : Sampling := (keepingFor longestRetention).sampling

/-- In the first second of year 0 the store with too many users is ready for a sample. -/
theorem ready_crowd :
    ∃ table, Ready patient mixedProbes zeroClock ⟨crowded crowd, [], ()⟩ table := by
  have hvalid : (keepingFor longestRetention).validate = .ok () := by decide +kernel
  have hyear : zeroClock.utc.reading.date.HasPlainYear := by
    unfold Date.HasPlainYear
    decide +kernel
  have hload : (⟨0x3fe0000000000000⟩ : Double).isNaN = false := by decide
  exact ⟨_,
    { load := (Config.exists_pattern hvalid).imp fun _ h ↦ ⟨h, hload⟩
      reports := exists_reported hyear (countable_of_nil rfl)
      store := ⟨_, _, rfl, TallySum.of_singleton 0, rfl, rfl, by decide +kernel,
        by decide +kernel, rfl⟩ }⟩

/-- A cluster for development that is full does not matter to the one behind it, and without that
cluster the other two are still too many. A run over them writes a row all the same. -/
theorem aggregate_exact_crowd :
    (aggregate.run (crowded crowd.tail)).1 = .ok ⟨1, 1, 2, 3, 4⟩ ∧
      (∀ counter ∈ Population.counters,
        (counter ⟨1, 1, 2, 3, 4⟩).toInt = exactCensus crowd.tail counter) ∧
      CountsUp crowd ∧ 2 ^ 63 - 1 < exactCensus crowd Population.users ∧
      (∃ error, (aggregate.run (crowded crowd)).1 = .error error) ∧
      (aggregate.run (crowded (crowd.filter fun row ↦ row.dev = 0))).1 =
        (aggregate.run (crowded crowd)).1 ∧
      carried? patient.shardCount (crowded crowd) = none ∧
      ∃ table, Ready patient mixedProbes zeroClock ⟨crowded crowd, [], ()⟩ table ∧
        ∃ sample result final,
          (run patient mixedProbes zeroClock).run ⟨crowded crowd, [], ()⟩ = (result, final) ∧
          Wrote patient zeroClock table ⟨0, 0, 0, 0, 0⟩ sample result final.store ∧
          ∃ kept, final.store.graphs = some ⟨table.added, kept, table.lastId + 1⟩ ∧
            GraphRow.ofSample (table.lastId + 1) sample ∈ kept := by
  have hknown : (aggregate.run (crowded crowd.tail)).1 = .ok ⟨1, 1, 2, 3, 4⟩ := by decide +kernel
  have hsigns : CountsUp crowd := by
    unfold CountsUp
    decide +kernel
  have hmany : 2 ^ 63 - 1 < exactCensus crowd Population.users := by decide +kernel
  have hfresh : carried? patient.shardCount (crowded crowd) = none := by decide +kernel
  have hyear : zeroClock.utc.reading.date.HasPlainYear := by
    unfold Date.HasPlainYear
    decide +kernel
  have hothers : (crowd.filter fun row ↦ row.dev = 0).filter (fun row ↦ row.dev = 0) =
      crowd.filter fun row ↦ row.dev = 0 := by decide +kernel
  obtain ⟨table, hready⟩ := ready_crowd
  obtain ⟨hexact, -⟩ := @aggregate_exact _ (crowded crowd.tail) rfl
  obtain ⟨-, hover, hdev, hrun⟩ := @aggregate_exact _ (crowded crowd) rfl
  have herror := (hover hsigns).mpr ⟨Population.users, List.mem_cons_self, hmany⟩
  obtain ⟨sample, result, final, hran, hwrote, hkept⟩ :=
    hrun Unit patient mixedProbes zeroClock _ table rfl herror hfresh hready
  exact ⟨hknown, hexact _ hknown, hsigns, hmany, herror, hdev _ _ rfl hothers, hfresh, table,
    hready, sample, result, final, hran, hwrote, hkept hyear⟩

end BotOps.Metrics
