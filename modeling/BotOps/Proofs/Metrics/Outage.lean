import BotOps.Proofs.Metrics.Series
import BotOps.Proofs.Store.Reading

/-!
# Outages

While shards are missing each run carries the population of the latest sample forward. As its own
sample then shows this population too, it does not matter which row is the latest one after that,
nor which rows are removed: over the whole outage the population stays that of the sample before it,
as `outage_carries` says.
-/

namespace BotOps.Metrics

open BotOps.Config BotOps.Store BotOps.Time

/-- Shards are missing in a store: fewer than expected are online or fewer are connected. -/
def ShardsMissing (expected : UInt32) (store : Store) : Prop :=
  ∃ shards, store.shards = some shards ∧ shards.length < UInt32.size ∧
    (shards.countP (fun row ↦ row.online ≠ 0) < expected.toNat ∨
      shards.countP (fun row ↦ row.connected ≠ 0) < expected.toNat)

/-- A row is read as a sample with a population. -/
def HasPopulation (population : Population) (row : GraphRow) : Prop :=
  ∃ sample, row.read = .ok sample ∧ sample.population = population

/-- The graph table has all columns of a sample, and its latest row can be read and shows a
population. -/
def Shows (population : Population) (store : Store) : Prop :=
  ∃ table latest, store.graphs = some table ∧ table.lacking? = none ∧
    table.latest? = some latest ∧ HasPopulation population latest

section

variable {σ : Type}

/-- Where shards are missing this is seen. -/
theorem ShardsMissing.seesMissing_eq {expected : UInt32} {store : Store}
    (h : ShardsMissing expected store) : seesMissing expected store = true := by
  obtain ⟨shards, hshards, hlength, hmissing⟩ := h
  have hdegraded : (summarize shards).isDegraded expected = true := by
    have hcount (p : ShardRow → Bool) :
        (UInt32.ofNat (shards.countP p)).toNat = shards.countP p :=
      UInt32.toNat_ofNat_of_lt' (Nat.lt_of_le_of_lt List.countP_le_length hlength)
    simp only [ShardSummary.isDegraded, summarize, Bool.or_eq_true, decide_eq_true_eq,
      UInt32.lt_iff_toNat_lt, hcount]
    exact hmissing
  unfold seesMissing
  rw [run_shardSummary hshards]
  exact hdegraded

/-- While shards are missing the population that the latest row shows is carried forward. -/
theorem Shows.carried?_eq {population : Population} {expected : UInt32} {store : Store}
    (h : Shows population store) (missing : ShardsMissing expected store) :
    carried? expected store = some population := by
  obtain ⟨table, latest, hgraphs, hcomplete, hlatest, sample, hread, rfl⟩ := h
  unfold carried?
  rw [if_pos missing.seesMissing_eq, run_latestSample hgraphs hcomplete, hlatest,
    Option.mapM_some, hread]
  rfl

/-- While shards are missing a measured sample has the population that the latest row shows. -/
theorem Shows.carried_prepare {population : Population} {settings : Sampling} {probes : Probes σ}
    {clock : Clock} {setting reached : Setting σ} {measured : Sample} {degraded carried : Bool}
    (h : Shows population setting.store) (missing : ShardsMissing settings.shardCount setting.store)
    (hrun : (prepare settings probes clock).run setting =
      (.ok (measured, degraded, carried), reached)) :
    degraded = true ∧ carried = true ∧ measured.population = population := by
  obtain ⟨-, hdegraded, hcarried, hpopulation⟩ := prepare_ok hrun
  rw [h.carried?_eq missing] at hcarried hpopulation
  exact ⟨hdegraded.trans missing.seesMissing_eq, hcarried, hpopulation⟩

/-- A row with the population that the latest row shows, if there is one, lets the latest row show
this population. -/
theorem exists_latest?_append {population : Population} {kept : GraphTable} (row : Nat → GraphRow)
    (hkept : ∀ latest, kept.latest? = some latest → HasPopulation population latest)
    (hrow : HasPopulation population (row (kept.lastId + 1))) :
    ∃ latest, (kept.append row).latest? = some latest ∧ HasPopulation population latest := by
  rw [GraphTable.latest?_append]
  cases hlatest : kept.latest? with
  | none => exact ⟨_, rfl, hrow⟩
  | some latest =>
    refine ⟨_, rfl, ?_⟩
    split
    · exact hrow
    · exact hkept latest hlatest

/-- A run while shards are missing carries the population forward, and leaves a table whose latest
row shows it, whether or not rows are removed. -/
theorem Round.Ran.shows {round : Round σ} {population : Population} (ran : round.Ran)
    (year : round.clock.utc.reading.date.HasPlainYear)
    (missing : ShardsMissing round.settings.shardCount round.before.store)
    (h : Shows population round.before.store) :
    round.report.degraded = true ∧ round.report.carriedForward = true ∧
      round.report.sample.population = population ∧ Shows population round.after.store := by
  obtain ⟨measured, reached, cutoff, tallies, table, hprepare, hsample, -, -, hsampled⟩ :=
    exists_sampled year ran
  obtain ⟨hdegraded, hcarried, hmeasured⟩ := h.carried_prepare missing hprepare
  have hpopulation : round.report.sample.population = population := by
    rw [hsample]
    exact hmeasured
  refine ⟨hdegraded, hcarried, hpopulation, ?_⟩
  obtain ⟨before, latest, hgraphs, hcomplete, hlatest, hshown⟩ := h
  obtain rfl : before = table := Option.some.inj (hgraphs.symm.trans hsampled.graphs)
  obtain ⟨kept, hkept, hafter⟩ := hsampled.exists_kept
  -- If the latest row is too old itself no row is left, and none shows another population.
  have hstill : kept.lacking? = none ∧
      ∀ other, kept.latest? = some other → HasPopulation population other := by
    rcases hkept with rfl | rfl
    · refine ⟨hcomplete, fun other hother ↦ ?_⟩
      obtain rfl := Option.some.inj (hlatest.symm.trans hother)
      exact hshown
    · refine ⟨hcomplete, fun other hother ↦ ?_⟩
      rw [GraphTable.latest?_since, hlatest] at hother
      obtain rfl := Option.some.inj (Option.filter_eq_some_iff.mp hother).1
      exact hshown
  obtain ⟨newest, hnewest, hsame⟩ := exists_latest?_append
    (fun id ↦ .ofSample id round.report.sample) hstill.2 ⟨_, read_ofSample _ _, hpopulation⟩
  exact ⟨_, newest, hafter, hstill.1, hnewest, hsame⟩

/-- Over an outage all runs carry the same population forward. -/
theorem Consecutive.shows {start last : Store} {rounds : List (Round σ)} {population : Population}
    (consecutive : Consecutive start rounds last)
    (outage : ∀ round ∈ rounds, ShardsMissing round.settings.shardCount round.before.store)
    (years : ∀ round ∈ rounds, round.clock.utc.reading.date.HasPlainYear)
    (h : Shows population start) :
    (∀ round ∈ rounds, round.report.degraded = true ∧ round.report.carriedForward = true ∧
      round.report.sample.population = population) ∧ Shows population last := by
  induction consecutive with
  | nil store => exact ⟨by simp, h⟩
  | @cons store last round rest ran found later ih =>
    obtain ⟨table, latest, hgraphs, hrest⟩ := h
    obtain ⟨hmissing, houtage⟩ := List.forall_mem_cons.mp outage
    obtain ⟨hyear, hyears⟩ := List.forall_mem_cons.mp years
    obtain ⟨hdegraded, hcarried, hpopulation, hshows⟩ :=
      ran.shows hyear hmissing ⟨table, latest, found.trans hgraphs, hrest⟩
    obtain ⟨hall, hlast⟩ := ih houtage hyears hshows
    exact ⟨List.forall_mem_cons.mpr ⟨⟨hdegraded, hcarried, hpopulation⟩, hall⟩, hlast⟩

end

/-- From a store on whose latest sample can be read, whatever the dates of its rows, while shards
are missing: all runs that follow each other report that they carried the population forward, each
has written one row, and this row has the population of the sample that was the latest one before
the first run. So has the latest sample at the end, be it the same as then or not. -/
theorem outage_carries {σ : Type} (start last : Store) (rounds : List (Round σ)) (first : Sample)
    (latest : latestSample.run start = (.ok (some first), start))
    (consecutive : Consecutive start rounds last)
    (outage : ∀ round ∈ rounds, ShardsMissing round.settings.shardCount round.before.store)
    (years : ∀ round ∈ rounds, round.clock.utc.reading.date.HasPlainYear) :
    (∀ round ∈ rounds, round.report.degraded = true ∧ round.report.carriedForward = true ∧
      ∃ id, round.Wrote (.ofSample id round.report.sample) ∧
        (GraphRow.ofSample id round.report.sample).population = first.population) ∧
      ∃ final, latestSample.run last = (.ok (some final), last) ∧
        final.population = first.population := by
  obtain ⟨table, row, hgraphs, hcomplete, hrow, hread⟩ := exists_of_run_latestSample_ok latest
  obtain ⟨hrounds, hshows⟩ :=
    consecutive.shows outage years ⟨table, row, hgraphs, hcomplete, hrow, first, hread, rfl⟩
  obtain ⟨ended, newest, hended, hstill, hnewest, final, hfinal, hsame⟩ := hshows
  refine ⟨fun round hround ↦ ?_, final, ?_, hsame⟩
  · obtain ⟨hdegraded, hcarried, hpopulation⟩ := hrounds round hround
    obtain ⟨id, hwrote⟩ := (consecutive.ran round hround).exists_wrote (years round hround)
    exact ⟨hdegraded, hcarried, id, hwrote, congrArg PopulationCells.ofPopulation hpopulation⟩
  · rw [run_latestSample hended hstill, hnewest, Option.mapM_some, hfinal]
    rfl

/-- The population before the outage. -/
def fullPopulation : Population := ⟨900, 12, 40, 7, 3⟩

/-- A sample from the start of 2024. -/
def newYearSample : Sample :=
  ⟨"2024-01-01T00:00:00Z", .zero, fullPopulation, .none, 0, 0, 0, 0⟩

/-- A graph table with this sample. -/
def newYearTable : GraphTable where
  added := sampleColumns.drop 6
  rows := [.ofSample 1 newYearSample]
  lastId := 1

/-- A store of a bot with two shards, one of which is offline and the other one not connected. -/
def outageStore : Store :=
  { Store.empty with
    shards := some [⟨0, 0, 1⟩, ⟨1, 1, 0⟩]
    questions := some 10
    counters := some [.exact 0]
    graphs := some newYearTable }

/-- A run with samples of two days that carries the full population forward. -/
def outageRound (utc : Instant) (pruned : Nat) (before : Setting Unit) : Round Unit :=
  expectedRound { twoDays with shardCount := 2 } utc before
    ⟨⟨utc.stored, ⟨0x3fe0000000000000⟩, fullPopulation, ⟨42, 0, 3⟩, 0, 0, 0, 10⟩, true, true,
      pruned⟩

/-- A run on 2024-01-10, which removes the row of the new year. -/
def firstRound : Round Unit := outageRound ⟨1704844800, 0, by decide⟩ 1 ⟨outageStore, [], ()⟩

/-- A run a day before that, after another program has put clusters into the store. -/
def earlierRound : Round Unit :=
  outageRound ⟨1704758400, 0, by decide⟩ 0
    ⟨{ firstRound.after.store with clusters := some [] }, [], ()⟩

/-- A run on 2024-02-01, which removes the rows of the other two. -/
def lateRound : Round Unit := outageRound ⟨1706745600, 0, by decide⟩ 2 earlierRound.after

/-- The clock runs backwards, and the outage lasts until only the row of the last run is left. It
still shows the population of the new year. -/
theorem outage_carries_backwards :
    let rounds := [firstRound, earlierRound, lateRound]
    let last := lateRound.after.store
    latestSample.run outageStore = (.ok (some newYearSample), outageStore) ∧
      Consecutive outageStore rounds last ∧
      (∀ round ∈ rounds, ShardsMissing round.settings.shardCount round.before.store) ∧
      (∀ round ∈ rounds, round.clock.utc.reading.date.HasPlainYear) ∧
      last.graphs = some
        { newYearTable with rows := [.ofSample 4 lateRound.report.sample], lastId := 4 } ∧
      (∀ round ∈ rounds, round.report.degraded = true ∧ round.report.carriedForward = true ∧
        ∃ id, round.Wrote (.ofSample id round.report.sample) ∧
          (GraphRow.ofSample id round.report.sample).population = fullPopulation) ∧
      ∃ final, latestSample.run last = (.ok (some final), last) ∧
        final.population = fullPopulation := by
  intro rounds last
  have hlatest : latestSample.run outageStore = (.ok (some newYearSample), outageStore) := by
    have hcomplete : newYearTable.lacking? = none := by decide +kernel
    have hread : newYearTable.latest?.mapM GraphRow.read = .ok (some newYearSample) := by
      decide +kernel
    rw [run_latestSample rfl hcomplete, hread]
  have hconsecutive : Consecutive outageStore rounds last :=
    .cons (ran_expectedRound (by decide +kernel)) rfl
      (.cons (ran_expectedRound (by decide +kernel)) rfl
        (.cons (ran_expectedRound (by decide +kernel)) rfl (.nil _)))
  have hshards : ∀ round ∈ rounds,
      round.before.store.shards = some [⟨0, 0, 1⟩, ⟨1, 1, 0⟩] := by decide +kernel
  have houtage : ∀ round ∈ rounds,
      ShardsMissing round.settings.shardCount round.before.store := by
    intro round hround
    have hcount : round.settings.shardCount = 2 := by
      revert round
      decide +kernel
    refine ⟨_, hshards round hround, by decide, .inl ?_⟩
    rw [hcount]
    decide
  have hyears : ∀ round ∈ rounds, round.clock.utc.reading.date.HasPlainYear := by
    unfold Date.HasPlainYear
    decide +kernel
  exact ⟨hlatest, hconsecutive, houtage, hyears, by decide +kernel,
    outage_carries outageStore last rounds newYearSample hlatest hconsecutive houtage hyears⟩

end BotOps.Metrics
