import BotOps.Proofs.Metrics.Population
import BotOps.Proofs.Store.Reading

/-!
# Measurements fail in isolation

A run reports if it has what it needs, and then its report and the store that it leaves are put
together from what each source gives: `Supplied.exists_run`. So a probe that fails takes its
own cell with it and nothing else, and so do a table that is missing and a log that cannot be read;
where no latency is measured the probes for it are not even asked: `measurements_isolated`.
-/

namespace BotOps.Metrics

open BotOps.Config BotOps.Store BotOps.Time

/-! ## What a run is put together from -/

section

variable {σ τ : Type}

/-- The load that a run takes from a state of the world outside on, and its next state. -/
def loadTaken (settings : Sampling) (probes : Probes σ) (outside : σ) : Double × σ :=
  match settings.pattern with
  | .error _ => (.zero, outside)
  | .ok pattern =>
    let (load, outside) := (probes.load pattern).run outside
    (load.toOption.getD .zero, outside)

/-- The latencies that a run takes behind the load, and the next state of the world outside. -/
def latenciesTaken (settings : Sampling) (probes : Probes σ) (outside : σ) : Latencies × σ :=
  roundTrips settings.environment probes (loadTaken settings probes outside).2

/-- How many rows are dated before a cutoff once there is a new one. -/
def tooOld (table : GraphTable) (date cutoff : String) : Nat :=
  (table.before cutoff).length + if date < cutoff then 1 else 0

/-- The cutoff before which rows are removed once there is a new one, unless the store refuses. -/
def removed? (store : Store) (table : GraphTable) (date cutoff : String) : Option String :=
  match store.refusal? .delete .graphs none (tooOld table date cutoff ≠ 0) none with
  | none => some cutoff
  | some _ => none

/-- The store that a run leaves: it has set the counter to 0, written its sample as a row, and
removed the rows that are dated before a cutoff if it could. -/
def leaving (before : Store) (tallies : List Tally) (table : GraphTable) (removed : Option String)
    (sample : Sample) : Store :=
  let recorded := recording before tallies table sample
  match removed with
  | none => recorded
  | some cutoff => { recorded with graphs := recorded.graphs.map (·.since cutoff) }

/-- The rows dated before a cutoff once there is a new one are as many as are too old. -/
theorem length_before_append (table : GraphTable) (sample : Sample) (cutoff : String) :
    ((table.append fun id ↦ .ofSample id sample).before cutoff).length =
      tooOld table sample.entryDate cutoff := by
  unfold GraphTable.before GraphTable.append tooOld GraphTable.before
  rw [List.filter_append, List.length_append, List.filter_singleton]
  by_cases hlt : sample.entryDate < cutoff <;> simp [hlt, entryDate_ofSample_lt_iff]

/-- What pruning does behind a new sample depends on the date of the sample only. -/
theorem run_pruneSamples_recording (before : Store) (tallies : List Tally) (table : GraphTable)
    (sample : Sample) (cutoff : Instant) :
    ∃ answer, (pruneSamples cutoff).run (recording before tallies table sample) =
        (answer, leaving before tallies table
          (removed? before table sample.entryDate cutoff.stored) sample) ∧
      answer.toOption = (removed? before table sample.entryDate cutoff.stored).map
        (tooOld table sample.entryDate) := by
  have hrun := run_pruneSamples
    (show (recording before tallies table sample).graphs = some _ from rfl) cutoff
  have hlength := length_before_append table sample cutoff.stored
  have htouching : (table.append fun id ↦ .ofSample id sample).before cutoff.stored ≠ [] ↔
      tooOld table sample.entryDate cutoff.stored ≠ 0 := by
    rw [← hlength, Ne, Ne, List.length_eq_zero_iff]
  have hrefusal : (recording before tallies table sample).refusal? .delete .graphs none
        ((table.append fun id ↦ .ofSample id sample).before cutoff.stored ≠ []) none =
      before.refusal? .delete .graphs none
        (tooOld table sample.entryDate cutoff.stored ≠ 0) none := by
    rw [decide_eq_decide.mpr htouching]
    rfl
  rw [hlength, hrefusal] at hrun
  unfold removed?
  cases hrefused : before.refusal? .delete .graphs none
      (tooOld table sample.entryDate cutoff.stored ≠ 0) none with
  | none =>
    rw [hrefused] at hrun
    exact ⟨_, hrun, rfl⟩
  | some error =>
    rw [hrefused] at hrun
    exact ⟨_, hrun, rfl⟩

/-- The report of a run, put together from the sample that it measures, the questions asked, and
what becomes of the rows before a cutoff. -/
def assembled (settings : Sampling) (clock : Clock) (store : Store) (table : GraphTable)
    (asked : Int64) (cutoff : Instant) (load : Double) (latencies : Latencies)
    (counts : Log.Counts) : Report where
  sample := { measured settings clock load latencies store counts with questionsAsked := asked }
  degraded := seesMissing settings.shardCount store
  carriedForward := (carried? settings.shardCount store).isSome
  pruned := ((removed? store table clock.utc.stored cutoff.stored).map
    (tooOld table clock.utc.stored)).getD 0

variable {settings : Sampling} {probes : Probes σ} {clock : Clock} {setting : Setting σ}
  {tallies : List Tally} {asked : Int64} {table : GraphTable} {cutoff : Instant}
  {counts : Log.Counts} {report : Report} {final : Setting σ}

private theorem loadTaken_of_ok {pattern : Pattern.Node} (h : settings.pattern = .ok pattern)
    (probes : Probes σ) (outside : σ) :
    loadTaken settings probes outside =
      (((probes.load pattern).run outside).1.toOption.getD .zero,
        ((probes.load pattern).run outside).2) := by
  unfold loadTaken
  rw [h]
  rfl

/-- Nothing fails where the verdict is that nothing does. -/
theorem exists_of_verdict_eq_ok {ε α : Type} {result : Except ε α} (h : verdict result = .ok ()) :
    ∃ a, result = .ok a := by
  cases result with
  | ok a => exact ⟨a, rfl⟩
  | error e => cases h

/-- A run ends well only if its sample was written and the calendar reaches back far enough. -/
theorem of_concluded_eq_ok {written : Except StoreError Unit}
    (h : concluded settings clock written = .ok ()) :
    written = .ok () ∧ ∃ cutoff, cutoff? clock.utc settings.retentionHours = some cutoff := by
  unfold concluded at h
  split at h
  · cases h
  · split at h
    · next hsome => exact ⟨rfl, Option.isSome_iff_exists.mp hsome⟩
    · cases h

/-- What finishing does behind a sample that was recorded depends on the date of the sample only. -/
theorem run_finish_recording (reach : cutoff? clock.utc settings.retentionHours = some cutoff)
    {before : Store} {sample : Sample} (date : sample.entryDate = clock.utc.stored)
    (degraded carried : Bool) (recorded : setting.store = recording before tallies table sample) :
    ∃ final, (finish settings clock sample degraded carried).run setting =
        (.ok ⟨sample, degraded, carried,
          ((removed? before table clock.utc.stored cutoff.stored).map
            (tooOld table clock.utc.stored)).getD 0⟩, final) ∧
      final.outside = setting.outside ∧
      final.store = leaving before tallies table
        (removed? before table clock.utc.stored cutoff.stored) sample := by
  obtain ⟨answer, hprune, hanswer⟩ :=
    run_pruneSamples_recording before tallies table sample cutoff
  rw [date] at hprune hanswer
  unfold finish pruneBefore
  rw [reach, ← hanswer]
  generalize leaving before tallies table _ sample = left at hprune ⊢
  dsimp only
  rw [run_bind, Job.run_attemptOr, recorded, hprune]
  cases answer with
  | ok count => exact ⟨_, rfl, rfl, rfl⟩
  | error error => exact ⟨_, rfl, rfl, rfl⟩

/-- What is measured before anything is written, in terms of what is taken. -/
theorem observes_prepare_taken {pattern : Pattern.Node} (hpattern : settings.pattern = .ok pattern)
    (probes : Probes σ) (clock : Clock) (store : Store) (outside : σ) :
    Job.Observes (prepare settings probes clock) store outside
      ((reported settings probes clock).map fun counts ↦
        (measured settings clock (loadTaken settings probes outside).1
            (latenciesTaken settings probes outside).1 store counts,
          seesMissing settings.shardCount store, (carried? settings.shardCount store).isSome))
      (latenciesTaken settings probes outside).2 := by
  rw [latenciesTaken, loadTaken_of_ok hpattern]
  exact observes_prepare hpattern probes clock store outside

/-- What a run needs to report: a pattern and a load that is a number, logs whose reports can be
counted, a store that takes samples, and a calendar that reaches back as far as samples are kept. -/
structure Supplied (settings : Sampling) (probes : Probes σ) (clock : Clock) (setting : Setting σ)
    (counts : Log.Counts) (tallies : List Tally) (asked : Int64) (table : GraphTable)
    (cutoff : Instant) : Prop where
  pattern : ∃ pattern, settings.pattern = .ok pattern
  number : (loadTaken settings probes setting.outside).1.isNaN = false
  reports : reported settings probes clock = .ok counts
  takes : TakesSamples setting.store tallies asked table
  reach : cutoff? clock.utc settings.retentionHours = some cutoff

/-- A run that has what it needs reports, and its report and the store that it leaves are put
together from what each source gives. -/
theorem Supplied.exists_run
    (h : Supplied settings probes clock setting counts tallies asked table cutoff) :
    ∃ report final, (run settings probes clock).run setting = (.ok report, final) ∧
      report = assembled settings clock setting.store table asked cutoff
        (loadTaken settings probes setting.outside).1
        (latenciesTaken settings probes setting.outside).1 counts ∧
      final.outside = (latenciesTaken settings probes setting.outside).2 ∧
      final.store = leaving setting.store tallies table
        (removed? setting.store table clock.utc.stored cutoff.stored) report.sample := by
  obtain ⟨⟨pattern, hpattern⟩, number, reports, takes, reach⟩ := h
  obtain ⟨events, -, hprepare⟩ :=
    observes_prepare_taken hpattern probes clock setting.store setting.outside setting.journal
  generalize loadTaken settings probes setting.outside = load at number hprepare ⊢
  generalize latenciesTaken settings probes setting.outside = latencies at hprepare ⊢
  obtain ⟨report, hreport⟩ : ∃ report, report = assembled settings clock setting.store table asked
      cutoff load.1 latencies.1 counts := ⟨_, rfl⟩
  have hrecord : (recordSample (measured settings clock load.1 latencies.1 setting.store
      counts)).run setting.store =
        (.ok report.sample, recording setting.store tallies table report.sample) := by
    rw [hreport]
    exact takes.run_recordSample number
  have hdate : report.sample.entryDate = clock.utc.stored := by rw [hreport]; rfl
  obtain ⟨final, hfinish, houtside, hstore⟩ :=
    @run_finish_recording _ settings clock
      ⟨recording setting.store tallies table report.sample, events ++ setting.journal, latencies.2⟩
      tallies table cutoff reach setting.store report.sample hdate
      (seesMissing settings.shardCount setting.store)
      (carried? settings.shardCount setting.store).isSome rfl
  refine ⟨report, final, ?_, hreport, houtside, hstore⟩
  rw [reports] at hprepare
  rw [run_eq, run_bind_ok hprepare, run_bind_ok (Job.run_attempt _ _)]
  dsimp only
  rw [hrecord, run_bind_ok (Job.run_require_ok _ _ _)]
  dsimp only
  rw [hfinish, hreport]
  rfl

/-- A run that reports has what it needs. -/
theorem exists_supplied_of_run (h : (run settings probes clock).run setting = (.ok report, final)) :
    ∃ counts tallies asked table cutoff,
      Supplied settings probes clock setting counts tallies asked table cutoff := by
  cases hpattern : settings.pattern with
  | error problem =>
    obtain ⟨events, -, hprepare⟩ :=
      observes_prepare_of_badPattern hpattern probes clock setting.journal
    rw [run_eq, run_bind_error hprepare] at h
    cases (Prod.mk.inj h).1
  | ok pattern =>
    obtain ⟨-, result, reached, -, hrun, -, hverdict⟩ := exists_run hpattern probes clock setting
    obtain ⟨rfl, -⟩ := Prod.mk.inj (h.symm.trans hrun)
    cases hreports : reported settings probes clock with
    | error halt =>
      rw [hreports] at hverdict
      cases hverdict
    | ok counts =>
      rw [hreports] at hverdict
      obtain ⟨hwritten, cutoff, hcutoff⟩ := of_concluded_eq_ok hverdict.symm
      obtain ⟨sample, hrecord⟩ := exists_of_verdict_eq_ok hwritten
      obtain ⟨⟨tallies, asked, table, takes⟩, number⟩ :=
        TakesSamples.of_run_recordSample (Prod.ext hrecord rfl)
      refine ⟨counts, tallies, asked, table, cutoff, ⟨pattern, hpattern⟩, ?_, hreports, takes,
        hcutoff⟩
      rw [loadTaken_of_ok hpattern]
      exact number

end

/-! ## What a source that fails takes with it -/

/-- A store is another one in which tables may be missing that a run only reads. -/
structure Stripped (store other : Store) : Prop where
  shards : other.shards = store.shards ∨ other.shards = none
  clusters : other.clusters = store.clusters ∨ other.clusters = none
  questions : other.questions = store.questions ∨ other.questions = none
  rest : other = { store with
    shards := other.shards, clusters := other.clusters, questions := other.questions }

section

variable {store other : Store} {tallies : List Tally} {asked : Int64} {table : GraphTable}

/-- A store takes samples whatever it lacks of the tables that a run only reads. -/
theorem Stripped.takesSamples (h : Stripped store other)
    (takes : TakesSamples store tallies asked table) : TakesSamples other tallies asked table := by
  rw [h.rest]
  exact ⟨takes.counters, takes.sum, takes.changes, takes.graphs, takes.complete, takes.room,
    takes.grows⟩

/-- Which rows are removed does not depend on what is missing. -/
theorem Stripped.removed?_eq (h : Stripped store other) (date cutoff : String) :
    removed? other table date cutoff = removed? store table date cutoff := by
  rw [h.rest]
  rfl

/-- Shards of which nothing is known are not missing. -/
theorem seesMissing_of_none (h : other.shards = none) (expected : UInt32) :
    seesMissing expected other = false := by
  unfold seesMissing shardSummary
  rw [run_bind_error (run_execute_error (Statement.content_none h))]
  rfl

/-- Whether shards are missing is seen from their table. -/
theorem seesMissing_congr (h : other.shards = store.shards) (expected : UInt32) :
    seesMissing expected other = seesMissing expected store := by
  cases hshards : store.shards with
  | none => rw [seesMissing_of_none hshards, seesMissing_of_none (h.trans hshards)]
  | some shards =>
    unfold seesMissing
    rw [run_shardSummary hshards, run_shardSummary (h.trans hshards)]

/-- No population is known of clusters of which nothing is known. -/
theorem freshPopulation_of_none (h : other.clusters = none) :
    freshPopulation other = .none := by
  unfold freshPopulation aggregate
  rw [run_execute_error (Statement.bind_error (Statement.content_none h) _)]
  rfl

/-- The population of the clusters is that in their table. -/
theorem freshPopulation_congr (h : other.clusters = store.clusters) :
    freshPopulation other = freshPopulation store := by
  cases hclusters : store.clusters with
  | none => rw [freshPopulation_of_none hclusters, freshPopulation_of_none (h.trans hclusters)]
  | some clusters =>
    unfold freshPopulation
    rw [run_aggregate hclusters, run_aggregate (h.trans hclusters)]
    cases census? clusters <;> rfl

/-- The questions in the bank are those in their table. -/
theorem questionBankSize_answer (store : Store) :
    (questionBankSize.run store).1.toOption.getD 0 = Int64.ofNat (store.questions.getD 0) := by
  unfold questionBankSize
  cases hquestions : store.questions with
  | none =>
    rw [run_bind_error (run_execute_error (Statement.content_none hquestions))]
    rfl
  | some count =>
    rw [run_bind_ok (run_execute_ok (Statement.content_some hquestions))]
    rfl

/-- What is carried forward is seen from the shards and the samples. -/
theorem carried?_congr (shards : other.shards = store.shards) (hstore : store.graphs = some table)
    (hother : other.graphs = some table) (complete : table.lacking? = none) (expected : UInt32) :
    carried? expected other = carried? expected store := by
  unfold carried?
  rw [seesMissing_congr shards, run_latestSample hstore complete, run_latestSample hother complete]

end

/-- A sample counts the reports in the scanned parts of the logs that can be read. -/
def CountsReadable {σ : Type} (settings : Sampling) (probes : Probes σ) (clock : Clock)
    (sample : Sample) : Prop :=
  ∃ window, Log.Window.endingAt clock.zoned settings.logWindowMinutes = some window ∧
    sample.kicks.toNat =
      ((logsOf settings probes).map (Log.File.scannedCount · window)).sum.kicks ∧
    sample.commands.toNat =
      ((logsOf settings probes).map (Log.File.scannedCount · window)).sum.commands

/-- Some logs are as before and the others cannot be read. -/
def Unread (logs fewer : String → Except Log.ReadFailure (List UInt8)) : Prop :=
  ∀ path, fewer path = logs path ∨ ∃ failure, fewer path = .error failure

section

variable {σ τ : Type} {settings : Sampling} {clock : Clock} {counts : Log.Counts}

/-- The reports that are taken are those in the scanned parts of the logs that can be read. -/
theorem reported_eq_ok_iff {probes : Probes σ} :
    reported settings probes clock = .ok counts ↔
      ∃ window, Log.Window.endingAt clock.zoned settings.logWindowMinutes = some window ∧
        counts = ((logsOf settings probes).map (Log.File.scannedCount · window)).sum ∧
        counts.Fits := by
  unfold reported
  cases Log.Window.endingAt clock.zoned settings.logWindowMinutes with
  | none => simp
  | some window =>
    dsimp only
    rw [Log.total_eq_sum_scannedCount]
    by_cases hfits : ((logsOf settings probes).map (Log.File.scannedCount · window)).sum.Fits
    · rw [if_pos hfits]
      constructor
      · intro h
        obtain rfl := Except.ok.inj h
        exact ⟨window, rfl, rfl, hfits⟩
      · rintro ⟨other, hother, rfl, -⟩
        obtain rfl := Option.some.inj hother
        rfl
    · rw [if_neg hfits]
      constructor
      · intro h
        cases h
      · rintro ⟨other, hother, rfl, hsum⟩
        obtain rfl := Option.some.inj hother
        exact absurd hsum hfits

/-- Logs that cannot be read take their reports with them. -/
theorem sum_scannedCount_le {first : Probes σ} {second : Probes τ} (h : Unread first.log second.log)
    (settings : Sampling) (window : Log.Window) :
    let all := ((logsOf settings first).map (Log.File.scannedCount · window)).sum
    let readable := ((logsOf settings second).map (Log.File.scannedCount · window)).sum
    readable.kicks ≤ all.kicks ∧ readable.commands ≤ all.commands := by
  unfold logsOf
  induction settings.logFiles with
  | nil => exact ⟨Nat.le_refl _, Nat.le_refl _⟩
  | cons path paths ih =>
    simp only [List.map_cons, List.sum_cons, Log.Counts.kicks_add, Log.Counts.commands_add] at ih ⊢
    rcases h path with hsame | ⟨failure, hfailure⟩
    · rw [hsame]
      exact ⟨Nat.add_le_add_left ih.1 _, Nat.add_le_add_left ih.2 _⟩
    · have hnone : Log.File.scannedCount ⟨path, second.log path⟩ window = 0 := by
        rw [hfailure]
        rfl
      rw [hnone, Log.Counts.kicks_zero, Log.Counts.commands_zero]
      exact ⟨by omega, by omega⟩

/-- Reports that can be counted can be counted without those of some logs. -/
theorem Unread.exists_reported {first : Probes σ} {second : Probes τ}
    (h : Unread first.log second.log) (reports : reported settings first clock = .ok counts) :
    ∃ fewer, reported settings second clock = .ok fewer := by
  obtain ⟨window, hwindow, rfl, hkicks, hcommands⟩ := reported_eq_ok_iff.mp reports
  obtain ⟨hle, hle'⟩ := sum_scannedCount_le h settings window
  exact ⟨_, reported_eq_ok_iff.mpr
    ⟨window, hwindow, rfl, Nat.lt_of_le_of_lt hle hkicks, Nat.lt_of_le_of_lt hle' hcommands⟩⟩

end

/-! ## Two runs -/

/-- The load and the latencies of a sample are those of the probes, where one that fails gives 0. -/
structure OwnReadings {σ : Type} (settings : Sampling) (probes : Probes σ) (outside : σ)
    (sample : Sample) : Prop where
  cpu : sample.cpu = (loadTaken settings probes outside).1
  latencies : sample.latencies = (latenciesTaken settings probes outside).1

/-- Two runs from one store have the same report and leave the same store, but for the cells of the
load and of the latencies in the row that each of them writes. -/
structure AgreeOutside (before : Store) (first second : Report) (after after' : Store) : Prop where
  sample : { second.sample with cpu := first.sample.cpu, latencies := first.sample.latencies } =
    first.sample
  degraded : second.degraded = first.degraded
  carriedForward : second.carriedForward = first.carriedForward
  pruned : second.pruned = first.pruned
  stores : ∃ tallies table removed, after = leaving before tallies table removed first.sample ∧
    after' = leaving before tallies table removed second.sample

/-- What the report of a run from a store in which tables may be missing has in common with the
report `full` of a run from the whole store. -/
structure Spared (store other : Store) (full report : Report) : Prop where
  date : report.sample.entryDate = full.sample.entryDate
  asked : report.sample.questionsAsked = full.sample.questionsAsked
  pruned : report.pruned = full.pruned
  shards : other.shards = store.shards →
    report.degraded = full.degraded ∧ report.carriedForward = full.carriedForward
  /-- Where nothing is known of the shards they do not count as degraded. -/
  noShards : other.shards = none → report.degraded = false ∧ report.carriedForward = false
  /-- A population that is carried forward does not come from the clusters. -/
  carried : report.carriedForward = true → report.sample.population = full.sample.population
  population : other.shards = store.shards → other.clusters = store.clusters →
    report.sample.population = full.sample.population
  fresh : report.carriedForward = false → other.clusters = store.clusters →
    report.sample.population = freshPopulation store
  noClusters : report.carriedForward = false → other.clusters = none →
    report.sample.population = ⟨0, 0, 0, 0, 0⟩
  questions : other.questions = store.questions →
    report.sample.questionCount = full.sample.questionCount
  noQuestions : other.questions = none → report.sample.questionCount = 0

section

variable {σ τ : Type} {settings : Sampling} {clock : Clock} {counts : Log.Counts}
  {tallies : List Tally} {asked : Int64} {table : GraphTable} {cutoff : Instant}

/-- The sample of a run counts the reports in the logs that can be read. -/
theorem countsReadable_of_reported {probes : Probes σ} {sample : Sample}
    (h : reported settings probes clock = .ok counts) (kicks : sample.kicks = .ofNat counts.kicks)
    (commands : sample.commands = .ofNat counts.commands) :
    CountsReadable settings probes clock sample := by
  obtain ⟨window, hwindow, rfl, hkicks, hcommands⟩ := reported_eq_ok_iff.mp h
  refine ⟨window, hwindow, ?_, ?_⟩
  · rw [kicks]
    exact UInt64.toNat_ofNat_of_lt' hkicks
  · rw [commands]
    exact UInt64.toNat_ofNat_of_lt' hcommands

/-- A run that has what it needs still has it when tables that it only reads are missing and logs
cannot be read, as long as its load is a number. -/
theorem Supplied.exists_stripped {first : Probes σ} {second : Probes τ} {setting : Setting σ}
    {other : Setting τ}
    (h : Supplied settings first clock setting counts tallies asked table cutoff)
    (logs : Unread first.log second.log) (stores : Stripped setting.store other.store)
    (number : (loadTaken settings second other.outside).1.isNaN = false) :
    ∃ fewer, Supplied settings second clock other fewer tallies asked table cutoff := by
  obtain ⟨fewer, hfewer⟩ := logs.exists_reported h.reports
  exact ⟨fewer, h.pattern, number, hfewer, stores.takesSamples h.takes, h.reach⟩

/-- What is put together from a store in which tables are missing has all but what comes from
these. -/
theorem Stripped.spared {store other : Store} (h : Stripped store other)
    (takes : TakesSamples store tallies asked table) (fewer : Log.Counts) (load load' : Double)
    (latencies latencies' : Latencies) :
    Spared store other
      (assembled settings clock store table asked cutoff load latencies counts)
      (assembled settings clock other table asked cutoff load' latencies' fewer) := by
  have hcarried (hshards : other.shards = store.shards) :
      carried? settings.shardCount other = carried? settings.shardCount store :=
    carried?_congr hshards takes.graphs (h.takesSamples takes).graphs takes.complete _
  have hnone (hshards : other.shards = none) : carried? settings.shardCount other = none := by
    rw [carried?, seesMissing_of_none hshards]
    rfl
  have hfresh (hcarried : (carried? settings.shardCount other).isSome = false) :
      (carried? settings.shardCount other).getD (freshPopulation other) =
        freshPopulation other := by
    rw [Option.isSome_eq_false_iff, Option.isNone_iff_eq_none] at hcarried
    rw [hcarried, Option.getD_none]
  have hkept (hcarried' : (carried? settings.shardCount other).isSome = true) :
      (carried? settings.shardCount other).getD (freshPopulation other) =
        (carried? settings.shardCount store).getD (freshPopulation store) := by
    obtain ⟨population, hpopulation⟩ := Option.isSome_iff_exists.mp hcarried'
    rcases h.shards with hshards | hshards
    · rw [← hcarried hshards, hpopulation, Option.getD_some, Option.getD_some]
    · rw [hnone hshards] at hpopulation
      cases hpopulation
  exact
    { date := rfl
      asked := rfl
      pruned := by
        unfold assembled
        dsimp only
        rw [h.removed?_eq]
      shards := fun hshards ↦
        ⟨seesMissing_congr hshards _, congrArg Option.isSome (hcarried hshards)⟩
      noShards := fun hshards ↦
        ⟨seesMissing_of_none hshards _, congrArg Option.isSome (hnone hshards)⟩
      carried := hkept
      population := by
        intro hshards hclusters
        change (carried? settings.shardCount other).getD (freshPopulation other) =
          (carried? settings.shardCount store).getD (freshPopulation store)
        rw [hcarried hshards, freshPopulation_congr hclusters]
      fresh := fun hcarried' hclusters ↦ (hfresh hcarried').trans (freshPopulation_congr hclusters)
      noClusters := fun hcarried' hclusters ↦
        (hfresh hcarried').trans (freshPopulation_of_none hclusters)
      questions := by
        intro hquestions
        change (questionBankSize.run other).1.toOption.getD 0 =
          (questionBankSize.run store).1.toOption.getD 0
        rw [questionBankSize_answer, questionBankSize_answer, hquestions]
      noQuestions := by
        intro hquestions
        change (questionBankSize.run other).1.toOption.getD 0 = 0
        rw [questionBankSize_answer, hquestions]
        rfl }

/-- Why two runs fail that differ only in what their probes give is the same, or both do not. -/
theorem verdict_run_congr {first : Probes σ} {second : Probes τ} {setting : Setting σ}
    {other : Setting τ} (logs : first.log = second.log) (stores : setting.store = other.store)
    (number : (loadTaken settings first setting.outside).1.isNaN = false)
    (number' : (loadTaken settings second other.outside).1.isNaN = false) :
    verdict ((run settings first clock).run setting).1 =
      verdict ((run settings second clock).run other).1 := by
  cases hpattern : settings.pattern with
  | error problem =>
    obtain ⟨_, -, hfirst⟩ :=
      observes_prepare_of_badPattern hpattern first clock setting.journal
    obtain ⟨_, -, hsecond⟩ :=
      observes_prepare_of_badPattern hpattern second clock other.journal
    rw [run_eq, run_eq, run_bind_error hfirst, run_bind_error hsecond]
  | ok pattern =>
    rw [loadTaken_of_ok hpattern] at number number'
    exact verdict_run_eq hpattern logs clock stores (number.trans number'.symm)

/-- The report of a run and the store that it leaves, put together from what each source gives. -/
theorem Supplied.of_run {probes : Probes σ} {setting final : Setting σ} {report : Report}
    (hrun : (run settings probes clock).run setting = (.ok report, final)) :
    ∃ counts tallies asked table cutoff,
      Supplied settings probes clock setting counts tallies asked table cutoff ∧
      report = assembled settings clock setting.store table asked cutoff
        (loadTaken settings probes setting.outside).1
        (latenciesTaken settings probes setting.outside).1 counts ∧
      final.outside = (latenciesTaken settings probes setting.outside).2 ∧
      final.store = leaving setting.store tallies table
        (removed? setting.store table clock.utc.stored cutoff.stored) report.sample := by
  obtain ⟨counts, tallies, asked, table, cutoff, hsupplied⟩ := exists_supplied_of_run hrun
  obtain ⟨full, left, hfull, hassembled, houtside, hstore⟩ := hsupplied.exists_run
  obtain ⟨hreport, rfl⟩ := Prod.mk.inj (hrun.symm.trans hfull)
  obtain rfl := Except.ok.inj hreport
  exact ⟨counts, tallies, asked, table, cutoff, hsupplied, hassembled, houtside, hstore⟩

/-- Two runs that report and differ only in what their probes give agree in all else. -/
theorem agreeOutside_of_run {first : Probes σ} {second : Probes τ} {setting final : Setting σ}
    {other final' : Setting τ} {report report' : Report} (logs : first.log = second.log)
    (stores : setting.store = other.store)
    (number : (loadTaken settings second other.outside).1.isNaN = false)
    (hrun : (run settings first clock).run setting = (.ok report, final))
    (hrun' : (run settings second clock).run other = (.ok report', final')) :
    OwnReadings settings first setting.outside report.sample ∧
      OwnReadings settings second other.outside report'.sample ∧
      AgreeOutside setting.store report report' final.store final'.store := by
  obtain ⟨counts, tallies, asked, table, cutoff, hsupplied, rfl, -, hstore⟩ := Supplied.of_run hrun
  have hreports : reported settings second clock = .ok counts := by
    rw [← hsupplied.reports]
    unfold reported logsOf
    rw [logs]
  have hother : Supplied settings second clock other counts tallies asked table cutoff :=
    ⟨hsupplied.pattern, number, hreports, stores ▸ hsupplied.takes, hsupplied.reach⟩
  obtain ⟨full, left, hfull, rfl, -, hleft⟩ := hother.exists_run
  obtain ⟨hreport, rfl⟩ := Prod.mk.inj (hrun'.symm.trans hfull)
  obtain rfl := Except.ok.inj hreport
  rw [← stores] at hleft ⊢
  exact ⟨⟨rfl, rfl⟩, ⟨rfl, rfl⟩, rfl, rfl, rfl, rfl, tallies, table, _, hstore, hleft⟩

/-- A run still reports where tables that it only reads are missing or logs cannot be read, and
nothing is lost but what would have come from these. -/
theorem exists_run_stripped {first : Probes σ} {second : Probes τ} {setting final : Setting σ}
    {other : Setting τ} {report : Report} (logs : Unread first.log second.log)
    (stores : Stripped setting.store other.store)
    (number : (loadTaken settings second other.outside).1.isNaN = false)
    (hrun : (run settings first clock).run setting = (.ok report, final)) :
    ∃ report' final', (run settings second clock).run other = (.ok report', final') ∧
      Spared setting.store other.store report report' ∧
      OwnReadings settings second other.outside report'.sample ∧
      CountsReadable settings second clock report'.sample ∧
      ∃ tallies table removed,
        final.store = leaving setting.store tallies table removed report.sample ∧
        final'.store = leaving other.store tallies table removed report'.sample := by
  obtain ⟨counts, tallies, asked, table, cutoff, hsupplied, rfl, -, hstore⟩ := Supplied.of_run hrun
  obtain ⟨fewer, hother⟩ := hsupplied.exists_stripped logs stores number
  obtain ⟨report', final', hrun', rfl, -, hleft⟩ := hother.exists_run
  rw [stores.removed?_eq] at hleft
  exact ⟨_, final', hrun', stores.spared hsupplied.takes fewer _ _ _ _, ⟨rfl, rfl⟩,
    countsReadable_of_reported hother.reports rfl rfl, tallies, table, _, hstore, hleft⟩

/-- Locally the probes for latencies make no difference. -/
theorem run_of_local (h : settings.environment = .local) (probes : Probes σ)
    (platform : StateM σ (Except Failure UInt64))
    (internal : StateM σ (Except Failure (Option UInt64))) (database : UInt64) :
    run settings { probes with platform, internal, database } clock =
      run settings probes clock := by
  unfold run
  rw [h]
  rfl

/-- Locally no latency is measured. -/
theorem latenciesTaken_of_local (h : settings.environment = .local) (probes : Probes σ)
    (outside : σ) :
    latenciesTaken settings probes outside =
      (⟨0, 0, 0⟩, (loadTaken settings probes outside).2) := by
  rw [latenciesTaken, h]
  rfl

end

/-- Whatever the store, the settings, the clock and the logs: two runs that differ only in what
their probes give, and whose loads are numbers or missing, both report or both fail, and if they
report then each has the readings of its own probes, with 0 for one that fails, and they agree in
all else. A run that reports does so too where tables that it only reads are missing or logs cannot
be read, and then nothing is 0 but what would have come from these. Locally the probes for latencies
make no difference, and no latency is measured. -/
theorem measurements_isolated (settings : Sampling) (clock : Clock) :
    (∀ {σ τ : Type} (first : Probes σ) (second : Probes τ) (setting : Setting σ)
        (other : Setting τ), first.log = second.log → setting.store = other.store →
        (loadTaken settings first setting.outside).1.isNaN = false →
        (loadTaken settings second other.outside).1.isNaN = false →
      verdict ((run settings first clock).run setting).1 =
          verdict ((run settings second clock).run other).1 ∧
        ∀ report final report' final',
          (run settings first clock).run setting = (.ok report, final) →
          (run settings second clock).run other = (.ok report', final') →
          OwnReadings settings first setting.outside report.sample ∧
          OwnReadings settings second other.outside report'.sample ∧
          AgreeOutside setting.store report report' final.store final'.store) ∧
    (∀ {σ τ : Type} (first : Probes σ) (second : Probes τ) (setting : Setting σ)
        (other : Setting τ), Unread first.log second.log → Stripped setting.store other.store →
        (loadTaken settings second other.outside).1.isNaN = false →
      ∀ report final, (run settings first clock).run setting = (.ok report, final) →
        ∃ report' final', (run settings second clock).run other = (.ok report', final') ∧
          Spared setting.store other.store report report' ∧
          OwnReadings settings second other.outside report'.sample ∧
          CountsReadable settings second clock report'.sample ∧
          ∃ tallies table removed,
            final.store = leaving setting.store tallies table removed report.sample ∧
            final'.store = leaving other.store tallies table removed report'.sample) ∧
    (settings.environment = .local → ∀ {σ : Type} (probes : Probes σ)
        (platform : StateM σ (Except Failure UInt64))
        (internal : StateM σ (Except Failure (Option UInt64))) (database : UInt64),
      run settings { probes with platform, internal, database } clock =
          run settings probes clock ∧
        ∀ setting report final, (run settings probes clock).run setting = (.ok report, final) →
          report.sample.latencies = ⟨0, 0, 0⟩ ∧
          final.outside = (loadTaken settings probes setting.outside).2) := by
  refine ⟨?_, ?_, ?_⟩
  · intro σ τ first second setting other logs stores number number'
    exact ⟨verdict_run_congr logs stores number number', fun _ _ _ _ hrun hrun' ↦
      agreeOutside_of_run logs stores number' hrun hrun'⟩
  · intro σ τ first second setting other logs stores number report final hrun
    exact exists_run_stripped logs stores number hrun
  · intro hlocal σ probes platform internal database
    refine ⟨run_of_local hlocal probes platform internal database, ?_⟩
    intro setting report final hrun
    obtain ⟨_, _, _, _, _, -, hreport, houtside, -⟩ := Supplied.of_run hrun
    rw [latenciesTaken_of_local hlocal] at hreport houtside
    exact ⟨by rw [hreport]; rfl, houtside⟩

/-- Settings for a bot with two shards and one log. -/
def watchful : Sampling := { Sampling.default with shardCount := 2, logFiles := ["bot"] }

/-- A quarter past midnight on 2024-01-01. -/
def newYearClock : Clock := ⟨Log.newYearWindow.last, Log.newYearWindow.last⟩

/-- Probes that all give something. -/
def goodProbes : Probes Unit where
  load _ := pure (.ok ⟨0x3fe0000000000000⟩)
  platform := pure (.ok 85)
  internal := pure (.ok (some 12))
  database := 3
  log _ := .ok Log.newYearLog

/-- Probes that all fail. -/
def failedProbes : Probes Unit where
  load _ := pure (.error (.service (.reported "no process table")))
  platform := pure (.error (.http none))
  internal := pure (.error (.http (some 502)))
  database := 0
  log := goodProbes.log

/-- A store of a bot with an offline shard, without samples. -/
def busyStore : Store :=
  { sampleless with
    shards := some [⟨0, 1, 1⟩, ⟨1, 0, 1⟩]
    clusters := some [⟨0, 0, 0, ⟨900, 12, 40, 7, 3⟩⟩]
    questions := some 5
    counters := some [.exact 8] }

/-- The same store without what a run only reads. -/
def bareStore : Store := { sampleless with counters := some [.exact 8] }

/-- What a run reports of the busy store if all its probes give something. -/
def goodReport : Report where
  sample :=
    ⟨"2024-01-01T00:15:00Z", ⟨0x3fe0000000000000⟩, ⟨900, 12, 40, 7, 3⟩, ⟨85, 12, 3⟩, 1, 0, 8, 5⟩
  degraded := true
  carriedForward := false
  pruned := 0

/-- What it reports if they all fail. -/
def failedReport : Report :=
  { goodReport with sample := { goodReport.sample with cpu := .zero, latencies := ⟨0, 0, 0⟩ } }

/-- What a run reports of the bare store with some probes and no log. -/
def bareReport : Report where
  sample := ⟨"2024-01-01T00:15:00Z", ⟨0x3fe0000000000000⟩, ⟨0, 0, 0, 0, 0⟩, ⟨42, 0, 3⟩, 0, 0, 8, 0⟩
  degraded := false
  carriedForward := false
  pruned := 0

/-- What a run with some probes comes to in the night of the new year. -/
def newYearRun (settings : Sampling) (probes : Probes Unit) (store : Store) :
    Except Halt Report × Setting Unit :=
  (run settings probes newYearClock).run ⟨store, [], ()⟩

private theorem newYearRun_eq {settings : Sampling} {probes : Probes Unit} {store : Store}
    {report : Report}
    (h : (newYearRun settings probes store).1 = .ok report) :
    (run settings probes newYearClock).run ⟨store, [], ()⟩ =
      (.ok report, (newYearRun settings probes store).2) :=
  Prod.ext h rfl

/-- Failed probes cost the load and the latencies, and the bare store and the missing log cost what
comes from them; the questions asked are there all the same. Locally a probe that gives something is
of no use. -/
theorem measurements_isolated_failedProbes :
    (loadTaken watchful goodProbes ()).1.isNaN = false ∧
    (loadTaken watchful failedProbes ()).1.isNaN = false ∧
    (loadTaken watchful mixedProbes ()).1.isNaN = false ∧
    Unread goodProbes.log mixedProbes.log ∧ Stripped busyStore bareStore ∧
    (newYearRun watchful goodProbes busyStore).1 = .ok goodReport ∧
    (newYearRun watchful failedProbes busyStore).1 = .ok failedReport ∧
    AgreeOutside busyStore goodReport failedReport
      (newYearRun watchful goodProbes busyStore).2.store
      (newYearRun watchful failedProbes busyStore).2.store ∧
    (newYearRun watchful mixedProbes bareStore).1 = .ok bareReport ∧
    Spared busyStore bareStore goodReport bareReport ∧
    ∃ report, (newYearRun { watchful with environment := .local } mixedProbes bareStore).1 =
      .ok report ∧ report.sample.latencies = ⟨0, 0, 0⟩ := by
  have hgood : (loadTaken watchful goodProbes ()).1.isNaN = false := by decide +kernel
  have hfailed : (loadTaken watchful failedProbes ()).1.isNaN = false := by decide +kernel
  have hmixed : (loadTaken watchful mixedProbes ()).1.isNaN = false := by decide +kernel
  have hunread : Unread goodProbes.log mixedProbes.log := fun _ ↦ .inr ⟨_, rfl⟩
  have hstripped : Stripped busyStore bareStore := ⟨.inr rfl, .inr rfl, .inr rfl, rfl⟩
  have hfirst : (newYearRun watchful goodProbes busyStore).1 = .ok goodReport := by decide +kernel
  have hsecond : (newYearRun watchful failedProbes busyStore).1 = .ok failedReport := by
    decide +kernel
  have hthird : (newYearRun watchful mixedProbes bareStore).1 = .ok bareReport := by
    decide +kernel
  have hfourth : (newYearRun { watchful with environment := .local } mixedProbes bareStore).1 =
      .ok { bareReport with sample := { bareReport.sample with latencies := ⟨0, 0, 0⟩ } } := by
    decide +kernel
  obtain ⟨htwo, hmissing, -⟩ := measurements_isolated watchful newYearClock
  obtain ⟨-, hagree⟩ := htwo goodProbes failedProbes ⟨busyStore, [], ()⟩ ⟨busyStore, [], ()⟩ rfl rfl
    hgood hfailed
  obtain ⟨-, -, hstores⟩ := hagree _ _ _ _ (newYearRun_eq hfirst) (newYearRun_eq hsecond)
  obtain ⟨report, final, hrun, hspared, -⟩ := hmissing goodProbes mixedProbes ⟨busyStore, [], ()⟩
    ⟨bareStore, [], ()⟩ hunread hstripped hmixed _ _ (newYearRun_eq hfirst)
  have hboth := (newYearRun_eq hthird).symm.trans hrun
  obtain rfl := Except.ok.inj (congrArg Prod.fst hboth)
  obtain ⟨-, -, hlocal⟩ :=
    measurements_isolated { watchful with environment := .local } newYearClock
  obtain ⟨-, hnone⟩ := hlocal rfl mixedProbes goodProbes.platform goodProbes.internal 0
  obtain ⟨hlatencies, -⟩ := hnone _ _ _ (newYearRun_eq hfourth)
  exact ⟨hgood, hfailed, hmixed, hunread, hstripped, hfirst, hsecond, hstores, hthird, hspared, _,
    hfourth, hlatencies⟩

end BotOps.Metrics
