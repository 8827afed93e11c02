import BotOps.Proofs.Store.Adoption
import BotOps.Proofs.Store.Writes

/-!
# Rows under a migration

Whatever another program has left in a store, migrating it adds no row to the credits, to the
samples or to a counter that has one, removes none and changes none, save that the rows of the graph
table have 0 in the columns that it lacked: `rowsKept_migrate`.
-/

namespace BotOps.Store

/-- A store has the credits, the samples and the counter of an earlier one. An empty counter
may have got rows, tables without rows may be new, and the samples may have 0 in columns that
are new. -/
structure RowsKept (before after : Store) : Prop where
  credits : after.credits = before.credits ∨ after.credits = some (before.credits.getD [])
  counters : before.counters.getD [] ≠ [] → after.counters = before.counters
  graphs : after.graphs = before.graphs ∨
    ∃ columns, columns ⊆ laterColumns ∧
      (∀ column ∈ columns, (graphTable before).hasColumn column = false) ∧
      after.graphs = some ((graphTable before).withColumns columns)

namespace RowsKept

variable {before after : Store}

/-- Rows are kept where nothing changes. -/
protected theorem refl (store : Store) : RowsKept store store :=
  ⟨.inl rfl, fun _ ↦ rfl, .inl rfl⟩

/-- The graph table is the earlier one with some new columns, maybe none. -/
theorem exists_withColumns (h : RowsKept before after) {table : GraphTable}
    (hgraphs : after.graphs = some table) :
    ∃ columns, columns ⊆ laterColumns ∧
      (∀ column ∈ columns, (graphTable before).hasColumn column = false) ∧
      table = (graphTable before).withColumns columns := by
  rcases h.graphs with hsame | ⟨columns, hlater, hnew, hafter⟩
  · refine ⟨[], List.nil_subset _, by simp, ?_⟩
    rw [withColumns_nil, graphTable, ← hsame, hgraphs]
    rfl
  · exact ⟨columns, hlater, hnew, Option.some.inj (hgraphs.symm.trans hafter)⟩

end RowsKept

section

variable {before : Store}

/-- A new table has no rows. -/
theorem keeps_create_rowsKept (table : Table) :
    Statement.Keeps (RowsKept before) (Statement.create table) := by
  refine .create fun store hmissing h ↦ ?_
  cases table with
  | credits =>
    have hnone : store.credits = none :=
      Option.isNone_iff_eq_none.mp (by simpa [has] using hmissing)
    have hrows : before.credits = none := by
      rcases h.credits with hsame | hnew
      · exact hsame.symm.trans hnone
      · cases hnone.symm.trans hnew
    exact ⟨.inr (by rw [hrows]; rfl), h.counters, h.graphs⟩
  | counters =>
    refine ⟨h.credits, fun hrows ↦ absurd ?_ hrows, h.graphs⟩
    have hnone : store.counters = none := by simpa [has] using hmissing
    rw [← h.counters hrows, hnone]
    rfl
  | graphs =>
    refine ⟨h.credits, h.counters, .inr ⟨[], List.nil_subset _, by simp, ?_⟩⟩
    have hgraphs : store.graphs = none := by simpa [has] using hmissing
    have hnone : before.graphs = none := by
      rcases h.graphs with hsame | ⟨columns, -, -, hafter⟩
      · exact hsame.symm.trans hgraphs
      · cases hgraphs.symm.trans hafter
    rw [withColumns_nil, graphTable, hnone]
    rfl
  | _ => exact ⟨h.credits, h.counters, h.graphs⟩

/-- Only an empty counter is seeded. -/
theorem keeps_seedCounter_rowsKept :
    Statement.Keeps (RowsKept before) Statement.seedCounter := by
  rintro store answer changed h hrun
  cases hcounters : store.counters with
  | none =>
    unfold Statement.seedCounter at hrun
    rw [Statement.bind_error (Statement.content_none hcounters)] at hrun
    cases hrun
  | some tallies =>
    rw [Statement.seedCounter_of_some hcounters] at hrun
    split at hrun
    · cases hrun
    · obtain ⟨-, rfl⟩ := Prod.mk.inj (Except.ok.inj hrun)
      refine ⟨h.credits, fun hrows ↦ ?_, h.graphs⟩
      have hsame := h.counters hrows
      have hfull : tallies ≠ [] := by
        rintro rfl
        rw [← hsame, hcounters] at hrows
        exact hrows rfl
      rw [← hsame, hcounters]
      exact congrArg some (if_neg hfull)

/-- A column is added only if the graph table has none of its name. -/
theorem keeps_addColumn_rowsKept (migration : Migration) (column : String)
    (hcolumn : column ∈ migration.columns) :
    Statement.Keeps (RowsKept before) (Statement.addColumn column) := by
  rintro store answer changed h hrun
  rw [Statement.addColumn_apply] at hrun
  cases hgraphs : store.graphs with
  | none => simp [hgraphs] at hrun
  | some table =>
    simp only [hgraphs] at hrun
    split at hrun
    · cases hrun
    next hlacks =>
    split at hrun
    · cases hrun
    · obtain ⟨-, rfl⟩ := Prod.mk.inj (Except.ok.inj hrun)
      obtain ⟨columns, hlater, hnew, rfl⟩ := h.exists_withColumns hgraphs
      have hcolumnLater : column ∈ laterColumns :=
        List.mem_flatMap.mpr ⟨migration, by cases migration <;> decide, hcolumn⟩
      have hcolumnNew : (graphTable before).hasColumn column = false := by
        rw [GraphTable.hasColumn, columns_withColumns, List.any_append, Bool.or_eq_true,
          not_or] at hlacks
        exact Bool.eq_false_iff.mpr hlacks.1
      refine ⟨h.credits, h.counters, .inr ⟨columns ++ [column], ?_, ?_, ?_⟩⟩
      · exact List.append_subset.mpr
          ⟨hlater, List.cons_subset.mpr ⟨hcolumnLater, List.nil_subset _⟩⟩
      · intro other hother
        rcases List.mem_append.mp hother with hother | hother
        · exact hnew other hother
        · rw [List.mem_singleton.mp hother]
          exact hcolumnNew
      · exact congrArg some (withColumns_withColumns columns [column])

end

/-- Migrating a store keeps the rows of its credits, its samples and its counter. -/
theorem rowsKept_migrate (store : Store) : RowsKept store (migrate.run store).2 :=
  keeps_migrate_of_steps keeps_create_rowsKept keeps_seedCounter_rowsKept
    keeps_addColumn_rowsKept
    (Statement.keeps_recordMigration fun _ _ h ↦ ⟨h.credits, h.counters, h.graphs⟩)
    store (.refl store)

end BotOps.Store
