import BotOps.Proofs.Store.Samples
import BotOps.Store.Census
import Mathlib.Data.List.Induction

/-!
# What is read from the store

What the queries of the sampler and of the reports give where their tables are there. The latest
sample is found by going through the rows once. So a new row is compared with it alone
(`latest?_append`), and it stays the latest one when old rows are removed, unless it is too old
itself and no row is left (`latest?_since`).
-/

namespace BotOps.Store

open BotOps.Metrics

section

variable {store : Store} {table : GraphTable}

/-- A graph table that has all columns of a sample is read as it is. -/
theorem Statement.readGraphs_of_some (h : store.graphs = some table)
    (complete : table.lacking? = none) : readGraphs store = .ok (table, store) := by
  unfold readGraphs
  rw [bind_ok (content_some h), complete]
  rfl

/-- The latest sample is that of the latest row, if it can be read. -/
theorem run_latestSample (h : store.graphs = some table) (complete : table.lacking? = none) :
    latestSample.run store = (table.latest?.mapM GraphRow.read, store) := by
  unfold latestSample
  rw [run_execute, Statement.bind_ok (Statement.readGraphs_of_some h complete)]
  cases table.latest?.mapM GraphRow.read <;> rfl

/-- The samples are listed as their rows are sorted, if all of these can be read. -/
theorem run_listSamples (h : store.graphs = some table) (complete : table.lacking? = none) :
    listSamples.run store = (table.sorted.mapM GraphRow.read, store) := by
  unfold listSamples
  rw [run_execute, Statement.bind_ok (Statement.readGraphs_of_some h complete)]
  cases table.sorted.mapM GraphRow.read <;> rfl

/-- A graph table that is read is there and has all columns of a sample. -/
theorem exists_complete_of_run_ok {α : Type} {rest : GraphTable → Statement α} {answer : α}
    {changed : Store}
    (h : (execute (Statement.readGraphs >>= rest)).run store = (.ok answer, changed)) :
    ∃ table, store.graphs = some table ∧ table.lacking? = none := by
  rw [run_execute, Statement.bind_apply] at h
  unfold Statement.readGraphs at h
  cases hgraphs : store.graphs with
  | none =>
    rw [Statement.bind_error (Statement.content_none hgraphs)] at h
    cases (Prod.mk.inj h).1
  | some table =>
    rw [Statement.bind_ok (Statement.content_some hgraphs)] at h
    cases hcomplete : table.lacking? with
    | some column =>
      rw [hcomplete] at h
      cases (Prod.mk.inj h).1
    | none => exact ⟨table, rfl, hcomplete⟩

/-- Samples are listed only where the table is complete and all of its rows can be read. -/
theorem exists_of_run_listSamples_ok {changed : Store} {samples : List Sample}
    (h : listSamples.run store = (.ok samples, changed)) :
    ∃ table, store.graphs = some table ∧ table.lacking? = none ∧
      ∀ row ∈ table.rows, row.IsLegible := by
  obtain ⟨table, hgraphs, hcomplete⟩ := exists_complete_of_run_ok h
  rw [run_listSamples hgraphs hcomplete] at h
  refine ⟨table, hgraphs, hcomplete, fun row hrow ↦ ?_⟩
  obtain ⟨sample, hsample⟩ := exists_mapM_eq_ok_iff.mp ⟨samples, (Prod.mk.inj h).1⟩ row
    ((List.mergeSort_perm _ _).mem_iff.mpr hrow)
  exact GraphRow.isLegible_of_read hsample

/-- Where all rows can be read their samples are listed. -/
theorem run_listSamples_of_legible (h : store.graphs = some table)
    (complete : table.lacking? = none)
    (legible : ∀ row ∈ table.rows, row.IsLegible) :
    listSamples.run store = (.ok (table.sorted.map GraphRow.sample), store) := by
  have hread : table.sorted.mapM GraphRow.read = .ok (table.sorted.map GraphRow.sample) :=
    mapM_eq_ok_map fun row hrow ↦ legible row ((List.mergeSort_perm _ _).mem_iff.mp hrow)
  rw [run_listSamples h complete, hread]

/-- Where the latest row can be read its sample is given. -/
theorem run_latestSample_of_legible (h : store.graphs = some table)
    (complete : table.lacking? = none) (legible : ∀ row ∈ table.latest?, row.IsLegible) :
    latestSample.run store = (.ok (table.latest?.map GraphRow.sample), store) := by
  rw [run_latestSample h complete]
  cases hlatest : table.latest? with
  | none => rfl
  | some latest =>
    rw [Option.mapM_some, legible latest hlatest]
    rfl

/-- The latest sample is given only where the table is complete and its latest row can be read. -/
theorem exists_of_run_latestSample_ok {changed : Store} {sample : Sample}
    (h : latestSample.run store = (.ok (some sample), changed)) :
    ∃ table latest, store.graphs = some table ∧ table.lacking? = none ∧
      table.latest? = some latest ∧ latest.read = .ok sample := by
  obtain ⟨table, hgraphs, hcomplete⟩ := exists_complete_of_run_ok h
  rw [run_latestSample hgraphs hcomplete] at h
  have hread := (Prod.mk.inj h).1
  cases hlatest : table.latest? with
  | none =>
    rw [hlatest] at hread
    cases hread
  | some latest =>
    rw [hlatest, Option.mapM_some] at hread
    cases hrow : latest.read with
    | error error =>
      rw [hrow] at hread
      cases hread
    | ok found =>
      rw [hrow] at hread
      obtain rfl := Option.some.inj (Except.ok.inj hread)
      exact ⟨table, latest, hgraphs, hcomplete, hlatest, hrow⟩

/-- The state of the shards is counted off their rows. -/
theorem run_shardSummary {shards : List ShardRow} (h : store.shards = some shards) :
    shardSummary.run store = (.ok (summarize shards), store) := by
  unfold shardSummary
  rw [run_bind_ok (run_execute_ok (Statement.content_some h))]
  rfl

end

namespace GraphTable

variable {table : GraphTable}

/-- A new row is the latest one unless the latest one so far has a later date. -/
theorem latest?_append (table : GraphTable) (row : Nat → GraphRow) :
    (table.append row).latest? = later table.latest? (row (table.lastId + 1)) := by
  unfold latest? append
  rw [List.foldl_append, List.foldl_cons, List.foldl_nil]

section

variable {p : GraphRow → Bool}
  (hmono : ∀ a b : GraphRow, a.entryDate ≤ b.entryDate → p a = true → p b = true)

include hmono

/-- Where later rows meet a condition if earlier ones do, rows that fail it may be left out before
or after the comparison with the latest one. -/
theorem filter_later (best : Option GraphRow) (row : GraphRow) :
    (later best row).filter p = if p row then later (best.filter p) row else best.filter p := by
  cases best with
  | none => by_cases hrow : p row <;> simp [later, hrow]
  | some best =>
    by_cases hle : best.entryDate ≤ row.entryDate
    · by_cases hrow : p row
      · by_cases hbest : p best <;> simp [later, Option.filter_some, hle, hrow, hbest]
      · have hbest : ¬ p best := fun h ↦ hrow (hmono _ _ hle h)
        simp [later, Option.filter_some, hle, hrow, hbest]
    · by_cases hrow : p row
      · have hbest : p best := hmono _ _ (Std.le_total.resolve_left hle) hrow
        simp [later, Option.filter_some, hle, hrow, hbest]
      · simp [later, hle, hrow]

/-- The latest of the rows that meet such a condition is the latest of all, unless that fails it. -/
theorem foldl_later_filter (rows : List GraphRow) :
    (rows.filter p).foldl later none = (rows.foldl later none).filter p := by
  induction rows using List.reverseRecOn with
  | nil => rfl
  | append_singleton rows row ih =>
    rw [List.filter_append, List.foldl_append, List.foldl_append, ih, List.foldl_cons,
      List.foldl_nil, filter_later hmono]
    by_cases hrow : p row
    · rw [if_pos hrow, List.filter_cons_of_pos hrow]
      rfl
    · rw [if_neg hrow, List.filter_cons_of_neg hrow]
      rfl

end

/-- Of the rows since a cutoff the latest one is the latest of all, unless that is too old. -/
theorem latest?_since (table : GraphTable) (cutoff : String) :
    (table.since cutoff).latest? = table.latest?.filter fun row ↦
      ¬ row.entryDate < Octets.ofString cutoff := by
  refine foldl_later_filter (fun a b hle ha ↦ ?_) table.rows
  rw [decide_eq_true_iff, Std.not_lt] at ha ⊢
  exact Std.le_trans ha hle

end GraphTable

end BotOps.Store
