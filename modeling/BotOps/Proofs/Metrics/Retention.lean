import BotOps.Proofs.Metrics.Series
import BotOps.Proofs.Store.Reading

/-!
# The window of samples

With clocks that do not run backwards and samples kept for a fixed time the graph table is a window
that slides over the runs. The cutoffs then grow from run to run, so that what an earlier run
removed would be removed by the last one too, which in turn removes all that it should:
`samples_slide`. Seconds are what counts, as dates are stored without anything smaller.
-/

namespace BotOps.Metrics

open BotOps.Store BotOps.Time

section

variable {σ : Type}

/-- The sample of a run as it is read once it was stored. -/
def Round.listed (round : Round σ) : Sample := kept round.report.sample

/-- The runs that are not before a cutoff, to the second. -/
def runsSince (cutoff : Instant) (rounds : List (Round σ)) : List (Round σ) :=
  rounds.filter fun round ↦ cutoff.truncated ≤ round.clock.utc.truncated

/-- The sample of a run is dated by its clock, which shows a year of four digits. -/
structure Round.Dated (round : Round σ) : Prop where
  date : round.report.sample.entryDate = round.clock.utc.stored
  year : round.clock.utc.reading.date.HasPlainYear

/-- The cutoffs of some runs are no later than another one, to the second. -/
def CutoffsUpTo (hours : UInt32) (cutoff : Instant) (rounds : List (Round σ)) : Prop :=
  ∀ round ∈ rounds, ∀ reached, cutoff? round.clock.utc hours = some reached →
    reached.truncated ≤ cutoff.truncated

/-- The graph table holds the rows of some of the runs that there have been, and no others. -/
structure Holds (hours : UInt32) (done : List (Round σ)) (table : GraphTable)
    (held : List (Round σ)) : Prop where
  complete : table.lacking? = none
  legible : ∀ row ∈ table.rows, row.IsLegible
  rows : table.rows.map GraphRow.sample = held.map Round.listed
  /-- The runs keep their order. -/
  sublist : held.Sublist done
  dated : ∀ round ∈ held, round.Dated
  /-- What the table has lost would also go for any cutoff that is no earlier than those so far. -/
  lost : ∀ cutoff, CutoffsUpTo hours cutoff done → runsSince cutoff held = runsSince cutoff done

variable {hours : UInt32} {done held rounds : List (Round σ)} {round : Round σ}
  {table : GraphTable} {cutoff later : Instant}

private theorem runsSince_append (first second : List (Round σ)) :
    runsSince cutoff (first ++ second) = runsSince cutoff first ++ runsSince cutoff second :=
  List.filter_append ..

/-- What is before an earlier cutoff is before a later one. -/
theorem runsSince_runsSince (h : cutoff.truncated ≤ later.truncated) (rounds : List (Round σ)) :
    runsSince later (runsSince cutoff rounds) = runsSince later rounds := by
  unfold runsSince
  rw [List.filter_filter]
  refine List.filter_congr fun round _ ↦ ?_
  rw [Bool.eq_iff_iff, Bool.and_eq_true, decide_eq_true_iff, decide_eq_true_iff]
  exact ⟨And.left, fun hsince ↦ ⟨hsince, Instant.le_trans h hsince⟩⟩

/-- To remove the rows before a cutoff is to keep those of the runs that are not before it. -/
theorem Holds.map_sample_since (h : Holds hours done table held)
    (hyear : cutoff.reading.date.year ≤ 9999) :
    (table.since cutoff.stored).rows.map GraphRow.sample =
      (runsSince cutoff held).map Round.listed := by
  have hsince : (table.since cutoff.stored).rows =
      table.rows.filter fun row ↦ ¬ row.sample.entryDate < cutoff.stored :=
    List.filter_congr fun row hrow ↦ by
      have horder : row.entryDate < Octets.ofString cutoff.stored ↔
          row.sample.entryDate < cutoff.stored := by
        rw [(h.legible row hrow).entryDate_eq, Octets.ofString_lt_ofString]
      exact decide_eq_decide.mpr (not_congr horder)
  have hfilter := congrArg
    (List.filter fun sample : Sample ↦ ¬ sample.entryDate < cutoff.stored) h.rows
  rw [List.filter_map, List.filter_map] at hfilter
  rw [hsince]
  refine hfilter.trans (congrArg _ (List.filter_congr fun round hround ↦ ?_))
  obtain ⟨hdate, hplain⟩ := h.dated round hround
  have horder := Instant.stored_lt_stored hplain hyear
  rw [← hdate] at horder
  exact decide_eq_decide.mpr (not_congr horder)

/-- Before the first run nothing was lost. -/
theorem Holds.start (complete : table.lacking? = none) (empty : table.rows = []) :
    Holds hours [] table ([] : List (Round σ)) where
  complete := complete
  legible := by simp [empty]
  rows := by rw [empty]; rfl
  sublist := .slnil
  dated := by simp
  lost _ _ := rfl

/-- A row for another run comes behind the others. -/
theorem Holds.append (h : Holds hours done table held) (hdated : round.Dated) :
    Holds hours (done ++ [round])
      (table.append fun id ↦ .ofSample id round.report.sample) (held ++ [round]) where
  complete := h.complete
  legible := List.forall_mem_append.mpr ⟨h.legible,
    List.forall_mem_singleton.mpr (GraphRow.isLegible_of_read (read_ofSample _ _))⟩
  rows := by
    rw [List.map_append, ← h.rows, GraphTable.append, List.map_append, List.map_singleton,
      sample_ofSample]
    rfl
  sublist := h.sublist.append (.refl _)
  dated := List.forall_mem_append.mpr ⟨h.dated, List.forall_mem_singleton.mpr hdated⟩
  lost cutoff hcutoffs := by
    rw [runsSince_append, runsSince_append,
      h.lost cutoff fun round hround ↦ hcutoffs round (List.mem_append_left _ hround)]

/-- The rows before the cutoff of one of the runs go. -/
theorem Holds.since (h : Holds hours done table held) (hround : round ∈ done)
    (hcutoff : cutoff? round.clock.utc hours = some cutoff)
    (hyear : round.clock.utc.reading.date.HasPlainYear) :
    Holds hours done (table.since cutoff.stored) (runsSince cutoff held) where
  complete := h.complete
  legible row hrow := h.legible row (List.mem_of_mem_filter hrow)
  rows := by
    have hnoLater := Instant.year_le_of_truncated_le (Instant.not_truncated_lt_ago hcutoff)
    exact h.map_sample_since (Int.le_trans hnoLater hyear.2)
  sublist := List.filter_sublist.trans h.sublist
  dated round hround := h.dated round (List.mem_of_mem_filter hround)
  lost later hcutoffs := by
    -- The cutoff is one of those that the later one is compared with.
    rw [runsSince_runsSince (hcutoffs round hround cutoff hcutoff), h.lost later hcutoffs]

/-- One more run adds its row, and then the rows before its cutoff go unless a guard
protects them. -/
theorem Holds.step (h : Holds hours done table held) (ran : round.Ran)
    (found : round.before.store.graphs = some table)
    (retention : round.settings.retentionHours = hours)
    (year : round.clock.utc.reading.date.HasPlainYear) :
    ∃ cutoff added, cutoff? round.clock.utc hours = some cutoff ∧
      Holds hours (done ++ [round]) added (held ++ [round]) ∧
      (round.after.store.graphs = some added ∨
        round.after.store.graphs = some (added.since cutoff.stored)) ∧
      (round.before.store.guard? .delete .graphs none = none →
        round.after.store.graphs = some (added.since cutoff.stored)) := by
  obtain ⟨-, -, cutoff, tallies, before, -, -, hdate, hcutoff, hsampled⟩ := exists_sampled year ran
  obtain rfl : before = table := Option.some.inj (hsampled.graphs.symm.trans found)
  rw [retention] at hcutoff
  have hnew : ¬ round.report.sample.entryDate < cutoff.stored := by
    rw [hdate]
    exact Instant.not_stored_lt_ago year hcutoff
  have hsince : (before.append fun id ↦ .ofSample id round.report.sample).since cutoff.stored =
      (before.since cutoff.stored).append fun id ↦ .ofSample id round.report.sample :=
    GraphTable.since_append hnew
  refine ⟨cutoff, _, hcutoff, h.append ⟨hdate, year⟩, ?_, fun unguarded ↦ ?_⟩
  · obtain ⟨kept, rfl | rfl, hafter⟩ := hsampled.exists_kept
    · exact .inl hafter
    · exact .inr (hafter.trans (congrArg some hsince.symm))
  · exact (hsampled.graphs_of_unguarded unguarded).trans (congrArg some hsince.symm)

/-- Over runs that follow each other the graph table keeps the rows that it should. -/
theorem Consecutive.holds {start last : Store} (consecutive : Consecutive start rounds last)
    (retention : ∀ round ∈ rounds, round.settings.retentionHours = hours)
    (years : ∀ round ∈ rounds, round.clock.utc.reading.date.HasPlainYear)
    (migrated : start.graphs = some table) (h : Holds hours done table held) :
    ∃ ended held, last.graphs = some ended ∧ Holds hours (done ++ rounds) ended held := by
  induction consecutive generalizing done table held with
  | nil => exact ⟨table, held, migrated, by rwa [List.append_nil]⟩
  | @cons store last round rest ran found later ih =>
    obtain ⟨hretention, hretentions⟩ := List.forall_mem_cons.mp retention
    obtain ⟨hyear, hyears⟩ := List.forall_mem_cons.mp years
    obtain ⟨cutoff, added, hcutoff, hadded, hafter, -⟩ :=
      h.step ran (found.trans migrated) hretention hyear
    have hround : round ∈ done ++ [round] :=
      List.mem_append_right _ (List.mem_singleton_self _)
    rw [List.append_cons]
    rcases hafter with hafter | hafter
    · exact ih hretentions hyears hafter hadded
    · exact ih hretentions hyears hafter (hadded.since hround hcutoff hyear)

/-- The rows of runs whose clocks do not run backwards are sorted by their dates. -/
theorem Holds.sorted_eq (h : Holds hours done table held)
    (ordered : held.Pairwise fun first second ↦ first.clock.utc ≤ second.clock.utc) :
    table.sorted = table.rows := by
  have hheld : held.Pairwise fun first second ↦
      first.listed.entryDate ≤ second.listed.entryDate := by
    refine ordered.imp_of_mem fun {first second} hfirst hsecond hle ↦ ?_
    obtain ⟨hdate, hyear⟩ := h.dated first hfirst
    obtain ⟨hdate', hyear'⟩ := h.dated second hsecond
    change first.report.sample.entryDate ≤ second.report.sample.entryDate
    rw [hdate, hdate', ← String.not_lt, Instant.stored_lt_stored hyear' hyear.2]
    exact Instant.truncated_le_truncated hle
  have hsamples : (table.rows.map GraphRow.sample).Pairwise fun first second ↦
      first.entryDate ≤ second.entryDate := by
    rw [h.rows]
    exact List.pairwise_map.mpr hheld
  refine List.mergeSort_of_pairwise ((List.pairwise_map.mp hsamples).imp_of_mem
    fun {first second} hfirst hsecond hle ↦ decide_eq_true ?_)
  rw [(h.legible first hfirst).entryDate_eq, (h.legible second hsecond).entryDate_eq]
  exact Octets.ofString_le_ofString.mpr hle

end

/-- The graph table is a window over the runs. From an empty table on, with clocks that never run
backwards, samples kept for the same time by all runs and no guard against the removal of rows by
the last of them: after that the samples listed are those of the runs not before the cutoff of the
last one, to the second, each once and in the order of the runs. -/
theorem samples_slide {σ : Type} (start last : Store) (earlier : List (Round σ)) (newest : Round σ)
    (hours : UInt32) (table : GraphTable) (migrated : start.graphs = some table)
    (complete : table.lacking? = none) (empty : table.rows = [])
    (consecutive : Consecutive start (earlier ++ [newest]) last)
    (retention : ∀ round ∈ earlier ++ [newest], round.settings.retentionHours = hours)
    (years : ∀ round ∈ earlier ++ [newest], round.clock.utc.reading.date.HasPlainYear)
    (ordered : (earlier ++ [newest]).Pairwise fun first second ↦
      first.clock.utc ≤ second.clock.utc)
    (unguarded : newest.before.store.guard? .delete .graphs none = none) :
    ∃ cutoff, cutoff? newest.clock.utc hours = some cutoff ∧
      listSamples.run last =
        (.ok ((runsSince cutoff (earlier ++ [newest])).map Round.listed), last) := by
  obtain ⟨middle, hearlier, hnewest⟩ := consecutive.exists_append
  obtain ⟨hretention, hretention'⟩ := List.forall_mem_append.mp retention
  obtain ⟨hyears, hyear⟩ := List.forall_mem_append.mp years
  have hyear := hyear newest (List.mem_singleton_self _)
  obtain ⟨before, held, hmiddle, hbefore⟩ :=
    hearlier.holds hretention hyears migrated (.start complete empty)
  cases hnewest with
  | cons ran found later =>
  cases later
  obtain ⟨cutoff, added, hcutoff, hadded, -, hafter⟩ := hbefore.step ran (found.trans hmiddle)
    (hretention' newest (List.mem_singleton_self _)) hyear
  rw [List.nil_append] at hadded
  have hcutoffs : CutoffsUpTo hours cutoff (earlier ++ [newest]) := by
    intro round hround reached hreached
    rcases List.mem_append.mp hround with hold | hnew
    · have hle := (List.pairwise_append.mp ordered).2.2 round hold newest
        (List.mem_singleton_self _)
      exact Instant.truncated_ago_le hle hreached hcutoff
    · obtain rfl := List.mem_singleton.mp hnew
      obtain rfl := Option.some.inj (hcutoff.symm.trans hreached)
      exact Instant.le_refl _
  have hsince := hadded.since (List.mem_append_right _ (List.mem_singleton_self _)) hcutoff hyear
  refine ⟨cutoff, hcutoff, ?_⟩
  rw [run_listSamples_of_legible (hafter unguarded) hsince.complete hsince.legible,
    hsince.sorted_eq (ordered.sublist hsince.sublist), hsince.rows, hadded.lost cutoff hcutoffs]

/-- A store with an empty graph table. -/
def emptyTableStore : Store :=
  { Store.empty with counters := some [.exact 0], graphs := some ⟨sampleColumns.drop 6, [], 0⟩ }

/-- A run with samples of one hour. -/
def hourRound (utc : Instant) (pruned : Nat) (before : Setting Unit) : Round Unit :=
  expectedRound { twoDays with retentionHours := 1 } utc before
    ⟨⟨utc.stored, ⟨0x3fe0000000000000⟩, .none, ⟨42, 0, 3⟩, 0, 0, 0, 0⟩, false, false, pruned⟩

/-- A run at 23:10:00 on the last day of 2016. -/
def oldRound : Round Unit :=
  hourRound ⟨1483225800, 900000000, by decide⟩ 0 ⟨emptyTableStore, [], ()⟩

/-- A run at 23:59:59, early in the second. -/
def lastRound : Round Unit := hourRound ⟨1483228799, 200000000, by decide⟩ 0 oldRound.after

/-- A run in the leap second behind that. -/
def leapRound : Round Unit := hourRound ⟨1483228799, 1500000000, by decide⟩ 0 lastRound.after

/-- Another run in the leap second. -/
def againRound : Round Unit := hourRound ⟨1483228799, 1500000000, by decide⟩ 0 leapRound.after

/-- A run at 00:59:59 in the new year, late in the second. -/
def newYearRound : Round Unit := hourRound ⟨1483232399, 700000000, by decide⟩ 1 againRound.after

/-- An hour before the last run is late in the second 23:59:59. The run early in that second stays,
as do both runs in the leap second. -/
theorem samples_slide_leapSecond :
    let rounds := [oldRound, lastRound, leapRound, againRound, newYearRound]
    let last := newYearRound.after.store
    Consecutive emptyTableStore rounds last ∧
      (∀ round ∈ rounds, round.settings.retentionHours = 1) ∧
      (∀ round ∈ rounds, round.clock.utc.reading.date.HasPlainYear) ∧
      (rounds.Pairwise fun first second ↦ first.clock.utc ≤ second.clock.utc) ∧
      (∃ cutoff, cutoff? newYearRound.clock.utc 1 = some cutoff ∧
        listSamples.run last = (.ok ((runsSince cutoff rounds).map Round.listed), last)) ∧
      listSamples.run last =
        (.ok ([lastRound, leapRound, againRound, newYearRound].map Round.listed), last) := by
  intro rounds last
  have hconsecutive : Consecutive emptyTableStore rounds last :=
    .cons (ran_expectedRound (by decide +kernel)) rfl
      (.cons (ran_expectedRound (by decide +kernel)) rfl
        (.cons (ran_expectedRound (by decide +kernel)) rfl
          (.cons (ran_expectedRound (by decide +kernel)) rfl
            (.cons (ran_expectedRound (by decide +kernel)) rfl (.nil _)))))
  have hretention : ∀ round ∈ rounds, round.settings.retentionHours = 1 := by decide +kernel
  have hyears : ∀ round ∈ rounds, round.clock.utc.reading.date.HasPlainYear := by
    unfold Date.HasPlainYear
    decide +kernel
  have hordered : rounds.Pairwise fun first second ↦ first.clock.utc ≤ second.clock.utc := by
    decide +kernel
  have hslide : ∃ cutoff, cutoff? newYearRound.clock.utc 1 = some cutoff ∧
      listSamples.run last = (.ok ((runsSince cutoff rounds).map Round.listed), last) :=
    samples_slide emptyTableStore last [oldRound, lastRound, leapRound, againRound] newYearRound 1
      _ rfl (by decide +kernel) rfl hconsecutive hretention hyears hordered (by decide +kernel)
  refine ⟨hconsecutive, hretention, hyears, hordered, hslide, ?_⟩
  obtain ⟨cutoff, hcutoff, hlisted⟩ := hslide
  have hreach : cutoff? newYearRound.clock.utc 1 =
      some ⟨1483228799, 700000000, by decide⟩ := by decide +kernel
  obtain rfl := Option.some.inj (hreach.symm.trans hcutoff)
  have hkept : (runsSince ⟨1483228799, 700000000, by decide⟩ rounds).map Round.listed =
      [lastRound, leapRound, againRound, newYearRound].map Round.listed := by decide +kernel
  rw [hlisted, hkept]

end BotOps.Metrics
