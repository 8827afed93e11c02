import BotOps.Proofs.Metrics.Sampler
import BotOps.Proofs.Time.Order
import Mathlib.Data.List.Nodup

/-!
# What a run of the sampler does to the store

A run that fails leaves the store as it was. One that reports a sample has moved the questions asked
into the sample, written the sample as a row and removed the rows that are too old, to which the new
row never belongs: `run_effect`.
-/

namespace BotOps.Metrics

open BotOps.Config BotOps.Store BotOps.Time

/-- The store once a sample is written as a row and the rows of the counter are set to 0. -/
def recording (before : Store) (tallies : List Tally) (table : GraphTable) (sample : Sample) :
    Store :=
  { before with
    counters := some (tallies.map fun _ ↦ .exact 0)
    graphs := some (table.append fun id ↦ .ofSample id sample) }

/-- What became of the rows before a cutoff behind a new sample: they are removed and counted, or
none is if the store refuses. -/
def Pruned (tallies : List Tally) (table : GraphTable) (cutoff : Instant) (report : Report)
    (before after : Store) : Prop :=
  ((pruneSamples cutoff).run (recording before tallies table report.sample) =
      (.ok report.pruned, after) ∧
    report.pruned = (table.before cutoff.stored).length ∧
    after.graphs =
      some ((table.since cutoff.stored).append fun id ↦ .ofSample id report.sample)) ∨
  ∃ error, (pruneSamples cutoff).run (recording before tallies table report.sample) =
      (.error error, after) ∧
    report.pruned = 0 ∧
    after.graphs = some (table.append fun id ↦ .ofSample id report.sample)

/-- What a run that reports a sample makes of a store with a counter and a graph table, where rows
before `cutoff` are too old. -/
structure Sampled (tallies : List Tally) (table : GraphTable) (cutoff : Instant) (report : Report)
    (before after : Store) : Prop where
  unlocked : before.locked = false
  counters : before.counters = some tallies
  graphs : before.graphs = some table
  /-- The sample has the questions asked before the run, and no questions are left. -/
  asked : questionsAsked.run before = (.ok report.sample.questionsAsked, before)
  reset : after.counters = some (tallies.map fun _ ↦ .exact 0)
  left : questionsAsked.run after = (.ok 0, after)
  /-- The new row is there and is read as the sample. -/
  kept : ∃ rows, after.graphs = some ⟨table.added, rows, table.lastId + 1⟩ ∧
    GraphRow.ofSample (table.lastId + 1) report.sample ∈ rows
  load : report.sample.cpu.isNaN = false
  row : Storable report.sample →
    (GraphRow.ofSample (table.lastId + 1) report.sample).read = .ok report.sample
  /-- Old rows are removed. -/
  pruned : Pruned tallies table cutoff report before after
  /-- Nothing else has changed. -/
  frame : after = { before with counters := after.counters, graphs := after.graphs }

/-- A sample that was recorded and finished with is the effect of its run. -/
theorem Sampled.of_recorded {tallies : List Tally} {table : GraphTable} {cutoff : Instant}
    {report : Report} {before after : Store}
    (takes : TakesSamples before tallies report.sample.questionsAsked table)
    (load : report.sample.cpu.isNaN = false) (hdate : ¬ report.sample.entryDate < cutoff.stored)
    (hprune : (pruneSamples cutoff).run (recording before tallies table report.sample) =
        (.ok report.pruned, after) ∨
      ∃ error, (pruneSamples cutoff).run (recording before tallies table report.sample) =
        (.error error, after) ∧ report.pruned = 0) :
    Sampled tallies table cutoff report before after := by
  have hrun := run_pruneSamples
    (show (recording before tallies table report.sample).graphs = some _ from rfl) cutoff
  rw [GraphTable.before_append hdate, GraphTable.since_append hdate] at hrun
  obtain ⟨rows, hafter, hpruned⟩ : ∃ rows,
      after = { recording before tallies table report.sample with
        graphs := some ⟨table.added, rows ++ [.ofSample (table.lastId + 1) report.sample],
          table.lastId + 1⟩ } ∧
      Pruned tallies table cutoff report before after := by
    rcases hprune with hprune | ⟨error, hprune, hnone⟩
    · rw [hprune] at hrun
      split at hrun
      · cases (Prod.mk.inj hrun).1
      · obtain ⟨hcount, rfl⟩ := Prod.mk.inj hrun
        exact ⟨_, rfl, .inl ⟨hprune, Except.ok.inj hcount, rfl⟩⟩
    · rw [hprune] at hrun
      split at hrun
      · obtain ⟨-, rfl⟩ := Prod.mk.inj hrun
        exact ⟨_, rfl, .inr ⟨error, hprune, hnone, rfl⟩⟩
      · cases (Prod.mk.inj hrun).1
  have hreset : after.counters = some (tallies.map fun _ ↦ .exact 0) := by rw [hafter]; rfl
  exact
    { unlocked := takes.unlocked
      counters := takes.counters
      graphs := takes.graphs
      asked := run_execute_ok takes.questionsAsked_eq
      reset := hreset
      left := run_questionsAsked_of_zeros hreset
      kept := ⟨_, by rw [hafter], List.mem_append_right rows (List.mem_singleton_self _)⟩
      load := load
      row := fun h ↦ by rw [read_ofSample, h.kept_eq]
      pruned := hpruned
      frame := by rw [hafter]; rfl }

/-- Whatever the store, the settings and the measurements, for a time whose year has four digits and
a cutoff within the calendar: a run that fails leaves the store as it was; and one that gives a
report has had the effect that the report tells. -/
theorem run_effect {σ : Type} (settings : Sampling) (probes : Probes σ) (clock : Clock)
    (setting : Setting σ) {cutoff : Instant} (year : clock.utc.reading.date.HasPlainYear)
    (reach : cutoff? clock.utc settings.retentionHours = some cutoff) :
    (∀ halt final, (run settings probes clock).run setting = (.error halt, final) →
      final.store = setting.store) ∧
    ∀ report final, (run settings probes clock).run setting = (.ok report, final) →
      ∃ tallies table, Sampled tallies table cutoff report setting.store final.store := by
  rcases run_halts_or_finishes settings probes clock setting with
    ⟨halt, final, hrun, hstore⟩ |
      ⟨measured, sample, degraded, carried, recorded, hdate, hrecord, hrun⟩
  · rw [hrun]
    refine ⟨fun _ _ h ↦ ?_, fun _ _ h ↦ ?_⟩
    · obtain ⟨-, rfl⟩ := Prod.mk.inj h
      exact hstore
    · cases (Prod.mk.inj h).1
  · obtain ⟨pruned, final, hfinish, hprune⟩ := run_finish reach sample degraded carried recorded
    rw [hrun, hfinish]
    refine ⟨fun _ _ h ↦ ?_, fun _ _ h ↦ ?_⟩
    · cases (Prod.mk.inj h).1
    · obtain ⟨hreport, rfl⟩ := Prod.mk.inj h
      obtain rfl := Except.ok.inj hreport
      rcases recordSample_cases measured setting.store with
        ⟨error, hrefused⟩ | ⟨tallies, asked, table, htakes, hload, hwritten⟩
      · cases (Prod.mk.inj (hrecord.symm.trans hrefused)).1
      · obtain ⟨hsample, hstore⟩ := Prod.mk.inj (hrecord.symm.trans hwritten)
        obtain rfl := Except.ok.inj hsample
        rw [hstore] at hprune
        have hnew : ¬ measured.entryDate < cutoff.stored := by
          rw [hdate]
          exact Instant.not_stored_lt_ago year reach
        exact ⟨tallies, table, .of_recorded htakes hload hnew hprune⟩

/-- Settings that keep samples for two days. -/
def twoDays : Sampling := { Sampling.default with processPattern := "bot", retentionHours := 48 }

/-- Probes of which one fails. -/
def mixedProbes : Probes Unit where
  load _ := pure (.ok ⟨0x3fe0000000000000⟩)
  platform := pure (.ok 42)
  internal := pure (.error (.service (.reported "no answer")))
  database := 3
  log _ := .error .missing

/-- A leap second in the first minute of year 0. -/
def leapClock : Clock := ⟨⟨-62167219141, 1500000000, by decide⟩, default⟩

/-- The instant two days before, in year -1. -/
def leapCutoff : Instant := ⟨-62167391940, 500000000, by decide⟩

/-- A store with two rows in its counter and with samples before and after the cutoff, some of which
have no date. -/
def agedStore : Store :=
  { Store.empty with
    counters := some [.exact 7, .exact 5]
    graphs := some
      { added := ["games", "kicks", "commands", "questions_asked", "question_count",
          "discord_ping", "trivia_api_ping", "db_ping"]
        rows := ["", "2024-01-15T00:00:00Z", "-0001-12-30T00:00:59Z", "-0001-12-30T00:01:00Z",
          " 2024", "tomorrow"].map fun date ↦
            .ofSample 0 ⟨date, .zero, .none, .none, 0, 0, 0, 0⟩
        lastId := 9 } }

/-- What the run in the leap second reports. -/
def leapReport : Report where
  sample := ⟨"0000-01-01T00:00:60Z", ⟨0x3fe0000000000000⟩, .none, ⟨42, 0, 3⟩, 0, 0, 12, 0⟩
  degraded := false
  carriedForward := false
  pruned := 3

/-- In the leap second the run removes the three rows before the cutoff and keeps its own, with the
twelve questions asked. -/
theorem run_effect_leapSecond :
    leapClock.utc.reading.date.HasPlainYear ∧
    cutoff? leapClock.utc twoDays.retentionHours = some leapCutoff ∧
    ∃ final tallies table,
      (run twoDays mixedProbes leapClock).run ⟨agedStore, [], ()⟩ = (.ok leapReport, final) ∧
      Sampled tallies table leapCutoff leapReport agedStore final.store := by
  have hyear : leapClock.utc.reading.date.HasPlainYear := by
    unfold Date.HasPlainYear
    decide +kernel
  have hreach : cutoff? leapClock.utc twoDays.retentionHours = some leapCutoff := by decide +kernel
  have hreport : ((run twoDays mixedProbes leapClock).run ⟨agedStore, [], ()⟩).1 =
      .ok leapReport := by decide +kernel
  have heffect := run_effect twoDays mixedProbes leapClock ⟨agedStore, [], ()⟩ hyear hreach
  cases hrun : (run twoDays mixedProbes leapClock).run ⟨agedStore, [], ()⟩ with
  | mk result final =>
  rw [hrun] at hreport
  obtain rfl : result = .ok leapReport := hreport
  obtain ⟨tallies, table, hsampled⟩ := heffect.2 leapReport final hrun
  exact ⟨hyear, hreach, final, tallies, table, rfl, hsampled⟩

end BotOps.Metrics
