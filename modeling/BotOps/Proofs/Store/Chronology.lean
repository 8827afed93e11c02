import BotOps.Proofs.Store.DateOrder
import BotOps.Proofs.Text.ByteOrder
import BotOps.Proofs.Time.Order

/-!
# The graph table in the order of time

Dates in the form in which instants are stored order the rows of the graph table in time, to the
second and with leap seconds where they belong: `stored_orders_time`. So samples are listed as they
were taken, and those removed are the ones taken before the cutoff, in whichever order they were
written.
-/

namespace BotOps.Store

open BotOps.Metrics BotOps.Text.Utf8 BotOps.Time

/-- The date of each row is the stored form of an instant with a year of four digits. -/
def DatedBy (moment : GraphRow → Instant) (rows : List GraphRow) : Prop :=
  ∀ row ∈ rows, row.entryDate = Octets.ofString (moment row).stored ∧
    (moment row).reading.date.HasPlainYear

section

variable {moment : GraphRow → Instant} {table : GraphTable} {cutoff : Instant}

/-- A row is dated before a cutoff just when it is of an earlier second. -/
theorem DatedBy.entryDate_lt_iff {rows : List GraphRow} (h : DatedBy moment rows)
    (hcutoff : cutoff.reading.date.year ≤ 9999) {row : GraphRow} (hrow : row ∈ rows) :
    row.entryDate < Octets.ofString cutoff.stored ↔
      (moment row).truncated < cutoff.truncated := by
  obtain ⟨hdate, hyear⟩ := h row hrow
  rw [hdate, Octets.ofString_lt_ofString]
  exact Instant.stored_lt_stored hyear hcutoff

private theorem DatedBy.before_eq (h : DatedBy moment table.rows)
    (hcutoff : cutoff.reading.date.year ≤ 9999) :
    table.before cutoff.stored =
      table.rows.filter fun row ↦ (moment row).truncated < cutoff.truncated := by
  apply List.filter_congr
  intro row hrow
  exact decide_eq_decide.mpr (h.entryDate_lt_iff hcutoff hrow)

private theorem DatedBy.since_eq (h : DatedBy moment table.rows)
    (hcutoff : cutoff.reading.date.year ≤ 9999) :
    table.since cutoff.stored = { table with
      rows := table.rows.filter fun row ↦
        !decide ((moment row).truncated < cutoff.truncated) } := by
  have hrows : (table.since cutoff.stored).rows =
      table.rows.filter fun row ↦ !decide ((moment row).truncated < cutoff.truncated) := by
    apply List.filter_congr
    intro row hrow
    rw [← decide_not]
    exact decide_eq_decide.mpr (not_congr (h.entryDate_lt_iff hcutoff hrow))
  rw [← hrows]
  rfl

/-- Sorted by their dates, rows follow one another in time. -/
theorem DatedBy.pairwise_sorted (h : DatedBy moment table.rows) :
    table.sorted.Pairwise fun a b ↦ (moment a).truncated ≤ (moment b).truncated := by
  apply table.inDateOrder_sorted.imp_of_mem
  intro a b ha hb hle hlater
  have hdated : DatedBy moment table.sorted := fun row hrow ↦
    h row (table.perm_sorted.mem_iff.mp hrow)
  obtain ⟨hdate, hyear⟩ := hdated a ha
  have hlt : b.entryDate < Octets.ofString (moment a).stored :=
    (hdated.entryDate_lt_iff hyear.2 hb).mpr hlater
  rw [← hdate] at hlt
  exact Std.not_lt.mpr hle hlt

end

/-- Stored instants are ordered by their bytes as they are in time, to the second, and have the same
bytes only in the same second. So in a table that is dated by instants, written in any order,
exactly the rows of a second before that of a cutoff are removed, unless the store refuses it, and
the rows are read as they follow one another in time; where each of them keeps a sample, the samples
are listed so. The cutoff may have a year before 0. -/
theorem stored_orders_time :
    (∀ a b : Instant, a.reading.date.HasPlainYear → b.reading.date.HasPlainYear →
      (bytesOf a.stored < bytesOf b.stored ↔ a.truncated < b.truncated) ∧
        (bytesOf a.stored = bytesOf b.stored ↔ a.truncated = b.truncated)) ∧
    ∀ (store : Store) (table : GraphTable) (moment : GraphRow → Instant),
      store.graphs = some table → DatedBy moment table.rows →
      (∀ cutoff : Instant, cutoff.reading.date.year ≤ 9999 →
        let isOld (row : GraphRow) : Bool := (moment row).truncated < cutoff.truncated
        (pruneSamples cutoff).run store =
          match store.refusal? .delete .graphs none (table.rows.filter isOld ≠ []) none with
          | some error => (.error error, store)
          | none => (.ok (table.rows.filter isOld).length, { store with
              graphs := some { table with rows := table.rows.filter fun row ↦ !isOld row } })) ∧
      (table.lacking? = none → ∃ rows : List GraphRow, rows.Perm table.rows ∧
        rows.Pairwise (fun a b ↦ (moment a).truncated ≤ (moment b).truncated) ∧
        listSamples.run store = (rows.mapM GraphRow.read, store) ∧
        ∀ sampleOf : GraphRow → Sample, (∀ row ∈ table.rows, row.read = .ok (sampleOf row)) →
          listSamples.run store = (.ok (rows.map sampleOf), store)) := by
  refine ⟨fun a b ha hb ↦ ⟨?_, ?_⟩, fun store table moment graphs dated ↦ ⟨?_, ?_⟩⟩
  · rw [bytesOf_lt_bytesOf, Instant.stored_lt_stored ha hb.2]
  · rw [bytesOf_inj, Instant.stored_inj ha hb]
  · intro cutoff hcutoff isOld
    have hrun := run_pruneSamples graphs cutoff
    rw [dated.before_eq hcutoff, dated.since_eq hcutoff] at hrun
    exact hrun
  · intro complete
    refine ⟨table.sorted, table.perm_sorted, dated.pairwise_sorted,
      run_listSamples graphs complete, fun sampleOf hread ↦ ?_⟩
    rw [run_listSamples graphs complete, mapM_eq_ok_map fun row hrow ↦
      hread row (table.perm_sorted.mem_iff.mp hrow)]

/-- When the samples of a few rows were taken: the first one at midnight, the second in the leap
second before it, and all others in the second before that. -/
def leapNightMoment (row : GraphRow) : Instant :=
  if row.id = 1 then ⟨1435708800, 0, by decide⟩
  else if row.id = 2 then ⟨1435708799, 1500000000, by decide⟩
  else ⟨1435708799, 900000000, by decide⟩

/-- The sample that a row keeps has the date of its moment. -/
def leapNightSample (row : GraphRow) : Sample :=
  ⟨(leapNightMoment row).stored, .zero, .none, .none, 0, 0, 0, 0⟩

/-- The row of a number with its sample. -/
def leapNightRow (id : Nat) : GraphRow := .ofSample id (leapNightSample (.ofSample id default))

/-- A table whose rows were written in the order of midnight, leap second and second before it. -/
def leapNightTable : GraphTable := ⟨sampleColumns.drop 6, [1, 2, 3].map leapNightRow, 3⟩

/-- A store with that table. -/
def leapNightStore : Store := { Store.empty with graphs := some leapNightTable }

/-- An earlier moment in the leap second. -/
def leapCutoff : Instant := ⟨1435708799, 1200000000, by decide⟩

/-- A moment in the year -1. -/
def ancientCutoff : Instant := ⟨-62190000000, 0, by decide⟩

/-- A cutoff in the leap second spares the row of that second and only removes the one before it; a
cutoff in the year -1 removes nothing. -/
theorem stored_orders_time_leapSecond :
    leapNightStore.graphs = some leapNightTable ∧ DatedBy leapNightMoment leapNightTable.rows ∧
      leapNightTable.lacking? = none ∧ leapCutoff.reading.date.year ≤ 9999 ∧
      ancientCutoff.reading.date.year = -1 ∧
      (pruneSamples leapCutoff).run leapNightStore = (.ok 1, { leapNightStore with
        graphs := some { leapNightTable with rows := [1, 2].map leapNightRow } }) ∧
      (pruneSamples ancientCutoff).run leapNightStore = (.ok 0, leapNightStore) ∧
      (∃ rows : List GraphRow, rows.Perm leapNightTable.rows ∧
        rows.Pairwise (fun a b ↦ (leapNightMoment a).truncated ≤ (leapNightMoment b).truncated) ∧
        listSamples.run leapNightStore = (.ok (rows.map leapNightSample), leapNightStore)) := by
  have hdated : DatedBy leapNightMoment leapNightTable.rows := by
    unfold DatedBy
    decide +kernel
  have hcomplete : leapNightTable.lacking? = none := by decide +kernel
  have hleap : leapCutoff.reading.date.year ≤ 9999 := by decide +kernel
  have hancient : ancientCutoff.reading.date.year = -1 := by decide +kernel
  have hread : ∀ row ∈ leapNightTable.rows, row.read = .ok (leapNightSample row) := by
    decide +kernel
  obtain ⟨hprune, hlist⟩ :=
    stored_orders_time.2 leapNightStore leapNightTable leapNightMoment rfl hdated
  obtain ⟨rows, hperm, hordered, -, hsamples⟩ := hlist hcomplete
  refine ⟨rfl, hdated, hcomplete, hleap, hancient, ?_, ?_, rows, hperm, hordered,
    hsamples leapNightSample hread⟩
  · rw [hprune leapCutoff hleap]
    rfl
  · rw [hprune ancientCutoff (by rw [hancient]; decide)]
    rfl

end BotOps.Store
