import BotOps.Proofs.Log.Tail
import BotOps.Proofs.Metrics.Effect

/-!
# How far back a run reaches

A run of the sampler steps back twice in time: to the beginning of the window of its logs, before
anything is written, and to the cutoff of old samples, behind the sample that it has written. With a
valid configuration the window always lies in the calendar. The cutoff does unless samples are kept
for more than `longestRetention` hours: a longer retention is accepted too, and there are times at
which such a run breaks down behind its sample (`run_outOfCalendar`). How each run ends is told by
`run_ends`.
-/

namespace BotOps

/-- A valid configuration has a pattern for processes. -/
theorem Config.exists_pattern {config : Config} (valid : config.validate = .ok ()) :
    ∃ node, config.sampling.pattern = .ok node := by
  unfold Config.validate at valid
  cases hpattern : config.sampling.pattern with
  | ok node => exact ⟨node, rfl⟩
  | error problem =>
    rw [hpattern] at valid
    split_ifs at valid <;> cases valid

namespace Metrics

open BotOps.Config BotOps.Store BotOps.Time

/-- The calendar reaches back from an instant by a number of hours. -/
def Reaches (now : Instant) (hours : UInt32) : Prop :=
  firstSecond + hours.toNat * 3600 ≤ now.seconds + if now.isLeap then 1 else 0

/-- For how many hours samples can be kept at every time whose year has four digits. -/
def longestRetention : UInt32 := 2297898336

section

variable {now : Instant} {hours : UInt32}

private theorem isSome_cutoff? : (cutoff? now hours).isSome = true ↔ Reaches now hours := by
  unfold cutoff? Reaches
  rw [Instant.isSome_ago]
  omega

/-- A retention that is not too long never leads out of the calendar. -/
theorem reaches_of_le (year : now.reading.date.HasPlainYear) (h : hours ≤ longestRetention) :
    Reaches now hours := by
  have hnow := Instant.le_seconds_of_hasPlainYear year
  have hhours : hours.toNat ≤ 2297898336 := UInt32.le_iff_toNat_le.mp h
  unfold Reaches firstSecond
  unfold yearZero secondsPerDay at hnow
  split <;> omega

/-- No window is too long. -/
theorem exists_window (year : now.reading.date.HasPlainYear) (minutes : UInt32) :
    ∃ window, Log.Window.endingAt now minutes = some window := by
  have hnow := Instant.le_seconds_of_hasPlainYear year
  have hminutes := minutes.toNat_lt
  have hsome : (now.ago (minutes.toNat * 60)).isSome = true := by
    rw [Instant.isSome_ago]
    unfold firstSecond
    unfold yearZero secondsPerDay at hnow
    split <;> omega
  obtain ⟨first, hfirst⟩ := Option.isSome_iff_exists.mp hsome
  exact ⟨⟨first, now⟩, by rw [Log.Window.endingAt, hfirst]; rfl⟩

end

section

variable {σ α : Type}

/-- The reports in the scanned parts of all logs together can be counted. -/
def Countable (settings : Sampling) (probes : Probes σ) (clock : Clock) : Prop :=
  ∀ window, Log.Window.endingAt clock.zoned settings.logWindowMinutes = some window →
    ((logsOf settings probes).map (Log.File.scannedCount · window)).sum.Fits

/-- Reports are taken if they can be counted. -/
theorem exists_reported {settings : Sampling} {probes : Probes σ} {clock : Clock}
    (year : clock.zoned.reading.date.HasPlainYear) (countable : Countable settings probes clock) :
    ∃ counts, reported settings probes clock = .ok counts := by
  obtain ⟨window, hwindow⟩ := exists_window year settings.logWindowMinutes
  have htotal := Log.total_eq_sum_scannedCount (logsOf settings probes) window
  rw [if_pos (countable window hwindow)] at htotal
  exact ⟨_, by rw [reported, hwindow]; dsimp only; rw [htotal]⟩

/-- A run with a valid configuration measures its sample, whatever fails outside. -/
theorem exists_measured {config : Config} {probes : Probes σ} {clock : Clock}
    (valid : config.validate = .ok ()) (year : clock.zoned.reading.date.HasPlainYear)
    (countable : Countable config.sampling probes clock) (setting : Setting σ) :
    ∃ sample degraded carried reached,
      (prepare config.sampling probes clock).run setting =
        (.ok (sample, degraded, carried), reached) ∧
      reached.store = setting.store := by
  obtain ⟨pattern, hpattern⟩ := Config.exists_pattern valid
  obtain ⟨counts, hcounts⟩ := exists_reported year countable
  obtain ⟨events, -, hprepare⟩ := observes_prepare hpattern probes clock setting.store
    setting.outside setting.journal
  rw [hcounts] at hprepare
  exact ⟨_, _, _, _, hprepare, rfl⟩

/-- How a run ends that finds a store, and the store that it leaves. -/
inductive Ends (settings : Sampling) (clock : Clock) (before : Store) :
    Except Halt Report → Store → Prop where
  /-- The store refuses the sample and stays as it was. -/
  | refused {measured : Sample} {error : StoreError}
      (refused : (recordSample measured).run before = (.error error, before)) :
      Ends settings clock before (.error (.failed (.persistence error))) before
  /-- The sample is written, and old samples are removed unless the store refuses that. -/
  | reported {measured : Sample} {recorded after : Store} {cutoff : Instant} {report : Report}
      (written : (recordSample measured).run before = (.ok report.sample, recorded))
      (reach : cutoff? clock.utc settings.retentionHours = some cutoff)
      (pruned : (pruneSamples cutoff).run recorded = (.ok report.pruned, after) ∨
        ∃ error, (pruneSamples cutoff).run recorded = (.error error, after) ∧
          report.pruned = 0) :
      Ends settings clock before (.ok report) after
  /-- The sample is written, but the calendar does not reach back to the cutoff. -/
  | brokenOff {measured sample : Sample} {after : Store}
      (written : (recordSample measured).run before = (.ok sample, after))
      (short : ¬ Reaches clock.utc settings.retentionHours) :
      Ends settings clock before (.error .outOfCalendar) after

/-- Where there are no logs there is nothing to count. -/
theorem countable_of_nil {settings : Sampling} {probes : Probes σ} {clock : Clock}
    (h : settings.logFiles = []) : Countable settings probes clock := by
  intro window _
  rw [logsOf, h]
  exact (by decide : (0 : Log.Counts).Fits)

/-- With a valid configuration, clocks whose years have four digits and reports that can be counted,
a run is refused by the store, or ends with a report behind the removal of old samples, or breaks
off behind its sample because the calendar does not reach back as far as samples are kept. The last
never happens up to the longest retention, and the window of the logs is always in the calendar. -/
theorem run_ends (config : Config) (valid : config.validate = .ok ()) (probes : Probes σ)
    (clock : Clock) (utc : clock.utc.reading.date.HasPlainYear)
    (zoned : clock.zoned.reading.date.HasPlainYear)
    (countable : Countable config.sampling probes clock) (setting : Setting σ) :
    (∃ window,
        Log.Window.endingAt clock.zoned config.sampling.logWindowMinutes = some window) ∧
      ((cutoff? clock.utc config.sampling.retentionHours).isSome = true ↔
        Reaches clock.utc config.sampling.retentionHours) ∧
      (config.sampling.retentionHours ≤ longestRetention →
        Reaches clock.utc config.sampling.retentionHours) ∧
      ∃ result final, (run config.sampling probes clock).run setting = (result, final) ∧
        Ends config.sampling clock setting.store result final.store := by
  refine ⟨exists_window zoned _, isSome_cutoff?, reaches_of_le utc, ?_⟩
  obtain ⟨measured, degraded, carried, reached, hprepare, hstore⟩ :=
    exists_measured valid zoned countable setting
  rw [run_eq, run_bind_ok hprepare]
  dsimp only
  rw [run_bind_ok (Job.run_attempt _ _), hstore]
  rcases recordSample_cases measured setting.store with
    ⟨error, hrecord⟩ | ⟨tallies, asked, table, -, -, hrecord⟩
  · rw [hrecord, run_bind_error (Job.run_require_error _ _ _)]
    exact ⟨_, _, rfl, .refused hrecord⟩
  · rw [hrecord, run_bind_ok (Job.run_require_ok _ _ _)]
    cases hcutoff : cutoff? clock.utc config.sampling.retentionHours with
    | none =>
      have hshort : ¬ Reaches clock.utc config.sampling.retentionHours := by
        rw [← isSome_cutoff?, hcutoff]
        exact Bool.false_ne_true
      unfold finish pruneBefore
      rw [hcutoff]
      exact ⟨_, _, rfl, .brokenOff hrecord hshort⟩
    | some cutoff =>
      obtain ⟨pruned, final, hfinish, hprune⟩ := run_finish hcutoff _ degraded carried
        ⟨_, reached.journal, reached.outside⟩
      exact ⟨_, final, hfinish, .reported hrecord hcutoff hprune⟩

end

/-- A configuration that keeps samples for a number of hours and is otherwise the preset one. -/
def keepingFor (hours : UInt32) : Config where
  databasePath := "ops.sqlite"
  platform := ⟨"1", none, Platform.defaultUrl⟩
  planId := defaultPlan
  sampling := { Sampling.default with retentionHours := hours }

/-- A store without samples. -/
def sampleless : Store :=
  { Store.empty with
    counters := some [.exact 0]
    graphs := some
      ⟨["games", "kicks", "commands", "questions_asked", "question_count", "discord_ping",
        "trivia_api_ping", "db_ping"], [], 0⟩ }

/-- The first second of year 0. -/
def zeroClock : Clock := ⟨⟨-62167219200, 0, by decide⟩, ⟨-62167219200, 0, by decide⟩⟩

/-- In the first second of year 0 the longest retention reaches back to the very first second. -/
theorem run_ends_zeroClock :
    (keepingFor longestRetention).validate = .ok () ∧
      zeroClock.utc.reading.date.HasPlainYear ∧
      Countable (keepingFor longestRetention).sampling mixedProbes zeroClock ∧
      ∃ result final,
        (run (keepingFor longestRetention).sampling mixedProbes zeroClock).run
          ⟨sampleless, [], ()⟩ = (result, final) ∧
        result.isOk = true ∧
        Ends (keepingFor longestRetention).sampling zeroClock sampleless result final.store := by
  have hvalid : (keepingFor longestRetention).validate = .ok () := by decide +kernel
  have hyear : zeroClock.utc.reading.date.HasPlainYear := by
    unfold Date.HasPlainYear
    decide +kernel
  have hcountable : Countable (keepingFor longestRetention).sampling mixedProbes zeroClock :=
    countable_of_nil rfl
  obtain ⟨-, -, -, result, final, hrun, hends⟩ :=
    run_ends (keepingFor longestRetention) hvalid mixedProbes zeroClock hyear hyear hcountable
      ⟨sampleless, [], ()⟩
  have hok : ((run (keepingFor longestRetention).sampling mixedProbes zeroClock).run
      ⟨sampleless, [], ()⟩).1.isOk = true := by decide +kernel
  rw [hrun] at hok
  exact ⟨hvalid, hyear, hcountable, result, final, hrun, hok, hends⟩

/-- Ten o'clock on 2024-01-15. -/
def morningClock : Clock := ⟨⟨1705312800, 0, by decide⟩, ⟨1705312800, 0, by decide⟩⟩

/-- A valid configuration that keeps samples as long as it can be said makes the run break down, and
the sample that it has written stays. -/
theorem run_outOfCalendar :
    (keepingFor 4294967295).validate = .ok () ∧
      morningClock.utc.reading.date.HasPlainYear ∧
      Countable (keepingFor 4294967295).sampling mixedProbes morningClock ∧
      ((run (keepingFor 4294967295).sampling mixedProbes morningClock).run
        ⟨sampleless, [], ()⟩).1 = .error .outOfCalendar ∧
      (((run (keepingFor 4294967295).sampling mixedProbes morningClock).run
        ⟨sampleless, [], ()⟩).2.store.graphs.map fun table ↦ table.rows.map GraphRow.entryDate) =
        some [↑"2024-01-15T10:00:00Z"] := by
  refine ⟨by decide +kernel, ?_, countable_of_nil rfl, by decide +kernel, by decide +kernel⟩
  unfold Date.HasPlainYear
  decide +kernel

end Metrics

end BotOps
