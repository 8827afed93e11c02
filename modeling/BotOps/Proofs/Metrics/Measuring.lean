import BotOps.Metrics.Sampler
import BotOps.Proofs.Observation
import BotOps.Proofs.Store.Queries

/-!
# What a run of the sampler measures

Before it writes a run only observes. Each part of its sample has a source of its own, and a source
that fails makes its part 0 and nothing else: `observes_prepare`.
-/

namespace BotOps.Metrics

open BotOps.Config BotOps.Store BotOps.Time

section

variable {σ α : Type}

/-- What a run measures before it writes: the sample, whether shards are missing and whether the
population is carried forward. -/
def prepare (settings : Sampling) (probes : Probes σ) (clock : Clock) :
    Job Halt σ (Sample × Bool × Bool) := do
  let pattern ← Job.require settings.pattern fun problem ↦ .failed (.config problem)
  let cpu ← measure (probes.load pattern) .loadUnavailable .zero
  let degraded ← checkShards settings.shardCount
  let (population, carriedForward) ← takePopulation degraded
  let latencies ← takeLatencies settings.environment probes
  let counts ← takeReports settings probes clock
  let questionCount ← Job.attemptOr questionBankSize .questionBankUnavailable 0
  let sample : Sample :=
    { entryDate := clock.utc.stored, cpu, population, latencies
      kicks := .ofNat counts.kicks, commands := .ofNat counts.commands
      questionsAsked := 0, questionCount }
  return (sample, degraded, carriedForward)

/-- The logs of a configuration, as they are read. -/
def logsOf (settings : Sampling) (probes : Probes σ) : List Log.File :=
  settings.logFiles.map fun path ↦ Log.File.mk path (probes.log path)

/-- What the logs of the last minutes report, if it can be counted. -/
def reported (settings : Sampling) (probes : Probes σ) (clock : Clock) : Except Halt Log.Counts :=
  match Log.Window.endingAt clock.zoned settings.logWindowMinutes with
  | none => .error .outOfCalendar
  | some window =>
    match Log.total (logsOf settings probes) window with
    | none => .error .uncountable
    | some counts => .ok counts

/-- A store knows of its shards, and some of them are missing. -/
def seesMissing (expected : UInt32) (store : Store) : Bool :=
  (shardSummary.run store).1.toOption.any (·.isDegraded expected)

/-- The population that is carried forward, if it is needed and there is one. -/
def carried? (expected : UInt32) (store : Store) : Option Population :=
  if seesMissing expected store then
    (latestSample.run store).1.toOption.join.map Sample.population
  else none

/-- The population that the clusters report. -/
def freshPopulation (store : Store) : Population :=
  (aggregate.run store).1.toOption.getD .none

/-- The round trips that are measured from a state of the world outside on, and its next state. -/
def roundTrips (environment : Environment) (probes : Probes σ) (outside : σ) : Latencies × σ :=
  match environment with
  | .local => (.none, outside)
  | .live =>
    let (platform, outside) := probes.platform.run outside
    let (internal, outside) := probes.internal.run outside
    (⟨platform.toOption.getD 0, (internal.toOption.getD none).getD 0, probes.database⟩, outside)

/-- The sample of a run before the questions asked are taken, given what the logs report. -/
def measured (settings : Sampling) (clock : Clock) (load : Double) (latencies : Latencies)
    (store : Store) (counts : Log.Counts) : Sample where
  entryDate := clock.utc.stored
  cpu := load
  population := (carried? settings.shardCount store).getD (freshPopulation store)
  latencies := latencies
  kicks := .ofNat counts.kicks
  commands := .ofNat counts.commands
  questionsAsked := 0
  questionCount := (questionBankSize.run store).1.toOption.getD 0

variable {store : Store} {outside : σ}

open Job

/-- A measurement that fails gives its substitute. -/
theorem observes_measure (probe : StateM σ (Except Failure α)) {event : Failure → Event}
    (hevent : ∀ failure, (event failure).isJobFailure = false) (substitute : α) :
    Observes (measure probe event substitute) store outside
      (.ok ((probe.run outside).1.toOption.getD substitute)) (probe.run outside).2 := by
  refine .bind (.ask probe) ?_
  cases (probe.run outside).1 with
  | ok value => exact .pure value
  | error failure => exact .bind (.report (hevent failure)) (.pure substitute)

private theorem observes_checkShards (expected : UInt32) :
    Observes (checkShards expected) store outside (.ok (seesMissing expected store)) outside := by
  unfold seesMissing
  refine .bind (.attempt keeps_shardSummary) ?_
  cases (shardSummary.run store).1 with
  | error error => exact .bind (.report rfl) (.pure _)
  | ok summary =>
    dsimp only
    split
    · exact .bind (.report rfl) (.pure _)
    · exact .pure _

private theorem observes_previousPopulation (expected : UInt32) :
    Observes (previousPopulation (seesMissing expected store)) store outside
      (.ok (carried? expected store)) outside := by
  unfold previousPopulation carried?
  split
  · refine .bind (.attempt keeps_latestSample) ?_
    rcases (latestSample.run store).1 with error | _ | sample
    · exact .bind (.report rfl) (.pure _)
    · exact .bind (.report rfl) (.pure _)
    · exact .pure _
  · exact .pure _

private theorem observes_takePopulation (expected : UInt32) :
    Observes (takePopulation (seesMissing expected store)) store outside
      (.ok ((carried? expected store).getD (freshPopulation store),
        (carried? expected store).isSome)) outside := by
  refine .bind (observes_previousPopulation expected) ?_
  cases carried? expected store with
  | some population => exact .pure _
  | none => exact .bind (.attemptOr keeps_aggregate (fun _ ↦ rfl) .none) (.pure _)

private theorem observes_takeLatencies (environment : Environment) (probes : Probes σ) :
    Observes (takeLatencies environment probes) store outside
      (.ok (roundTrips environment probes outside).1)
      (roundTrips environment probes outside).2 := by
  cases environment with
  | «local» => exact .pure _
  | live =>
    exact .bind (observes_measure probes.platform (fun _ ↦ rfl) 0)
      (.bind (observes_measure probes.internal (fun _ ↦ rfl) none) (.pure _))

private theorem observes_takeReports (settings : Sampling) (probes : Probes σ) (clock : Clock) :
    Observes (takeReports settings probes clock) store outside (reported settings probes clock)
      outside := by
  unfold takeReports reported logsOf
  cases Log.Window.endingAt clock.zoned settings.logWindowMinutes with
  | none => exact .throw _
  | some window =>
    refine .bind (.forM (fun finding ↦ .report rfl) _) ?_
    dsimp only
    generalize Log.total _ window = total
    cases total with
    | none => exact .throw _
    | some counts => exact .pure _

/-- A run with a pattern measures each part of its sample by itself, and only the logs can make it
fail before the sample is written. -/
theorem observes_prepare {settings : Sampling} {pattern : Pattern.Node}
    (hpattern : settings.pattern = .ok pattern) (probes : Probes σ) (clock : Clock) (store : Store)
    (outside : σ) :
    let load := (probes.load pattern).run outside
    let latencies := roundTrips settings.environment probes load.2
    Observes (prepare settings probes clock) store outside
      ((reported settings probes clock).map fun counts ↦
        (measured settings clock (load.1.toOption.getD .zero) latencies.1 store counts,
          seesMissing settings.shardCount store, (carried? settings.shardCount store).isSome))
      latencies.2 := by
  intro load latencies
  unfold prepare
  rw [hpattern]
  refine .bind (.pure pattern) ?_
  refine .bind (observes_measure (probes.load pattern) (fun _ ↦ rfl) .zero) ?_
  refine .bind (observes_checkShards settings.shardCount) ?_
  refine .bind (observes_takePopulation settings.shardCount) ?_
  refine .bind (observes_takeLatencies settings.environment probes) ?_
  have hreports : Observes (takeReports settings probes clock) store latencies.2
      (reported settings probes clock) latencies.2 := observes_takeReports settings probes clock
  cases hcounts : reported settings probes clock with
  | error halt =>
    rw [hcounts] at hreports
    exact hreports.bind_error _
  | ok counts =>
    rw [hcounts] at hreports
    refine .bind hreports ?_
    exact .bind (.attemptOr keeps_questionBankSize (fun _ ↦ rfl) 0) (.pure _)

/-- Without a pattern a run fails at once. -/
theorem observes_prepare_of_badPattern {settings : Sampling} {problem : ConfigProblem}
    (hpattern : settings.pattern = .error problem) (probes : Probes σ) (clock : Clock) :
    Observes (prepare settings probes clock) store outside (.error (.failed (.config problem)))
      outside := by
  unfold prepare
  rw [hpattern]
  exact .bind_error (.throw _) _

/-- Measuring only observes, whether or not it fails. -/
theorem exists_observes_prepare (settings : Sampling) (probes : Probes σ) (clock : Clock)
    (store : Store) (outside : σ) :
    ∃ result next, Observes (prepare settings probes clock) store outside result next := by
  cases hpattern : settings.pattern with
  | error problem => exact ⟨_, _, observes_prepare_of_badPattern hpattern probes clock⟩
  | ok pattern => exact ⟨_, _, observes_prepare hpattern probes clock store outside⟩

/-- Measuring leaves the store alone. -/
theorem keeps_prepare {P : Store → Prop} (settings : Sampling) (probes : Probes σ) (clock : Clock) :
    Job.Keeps P (prepare settings probes clock) := by
  intro setting h
  obtain ⟨_, _, hobserves⟩ :=
    exists_observes_prepare settings probes clock setting.store setting.outside
  obtain ⟨events, -, hrun⟩ := hobserves setting.journal
  rw [hrun]
  exact h

/-- A sample that was measured, as far as it depends on the clock and on the store. -/
theorem prepare_ok {settings : Sampling} {probes : Probes σ} {clock : Clock}
    {setting reached : Setting σ} {sample : Sample} {degraded carried : Bool}
    (h : (prepare settings probes clock).run setting = (.ok (sample, degraded, carried), reached)) :
    sample.entryDate = clock.utc.stored ∧
      degraded = seesMissing settings.shardCount setting.store ∧
      carried = (carried? settings.shardCount setting.store).isSome ∧
      sample.population = (carried? settings.shardCount setting.store).getD
        (freshPopulation setting.store) := by
  cases hpattern : settings.pattern with
  | error problem =>
    obtain ⟨events, -, hrun⟩ :=
      observes_prepare_of_badPattern hpattern probes clock setting.journal
    cases (Prod.mk.inj (h.symm.trans hrun)).1
  | ok pattern =>
    obtain ⟨events, -, hrun⟩ :=
      observes_prepare hpattern probes clock setting.store setting.outside setting.journal
    have hresult := (Prod.mk.inj (h.symm.trans hrun)).1
    cases hcounts : reported settings probes clock with
    | error halt =>
      rw [hcounts] at hresult
      cases hresult
    | ok counts =>
      rw [hcounts] at hresult
      obtain ⟨rfl, hflags⟩ := Prod.mk.inj (Except.ok.inj hresult)
      obtain ⟨rfl, rfl⟩ := Prod.mk.inj hflags
      exact ⟨rfl, rfl, rfl, rfl⟩

end

end BotOps.Metrics
