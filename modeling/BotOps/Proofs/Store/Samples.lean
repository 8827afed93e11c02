import BotOps.Proofs.Store.Cell
import BotOps.Proofs.Store.Statement

/-!
# Samples in the store

What writing, recording and removing samples makes of any store at all. Recording a sample either
fails and leaves the store as it was, or moves the sum of the counter into a new row:
`recordSample_cases`. Removing samples splits the rows by their dates: `run_pruneSamples`.
-/

namespace BotOps.Store

open BotOps.Metrics

section

variable {store : Store} {tallies : List Tally}

/-- The questions asked are the sum over the rows of the counter, if that is known. -/
theorem Statement.questionsAsked_of_some (h : store.counters = some tallies) :
    Statement.questionsAsked store =
      match TallySum.of tallies with
      | .exact sum => .ok (sum, store)
      | .overflowed => .error .overflow
      | .inexact => .error (.mistyped .real 0 "COALESCE(SUM(asked), 0)") := by
  unfold Statement.questionsAsked
  rw [bind_ok (content_some h)]
  cases TallySum.of tallies <;> rfl

/-- A change to the counter fails if the store refuses it and changes every row otherwise. -/
theorem Statement.updateCounters_of_some (h : store.counters = some tallies)
    (change : Tally → Tally) :
    Statement.updateCounters change store =
      match store.refusal? .update .counters none (tallies ≠ []) none with
      | some error => .error error
      | none => .ok ((), { store with counters := some (tallies.map change) }) := by
  unfold Statement.updateCounters
  rw [bind_ok (content_some h)]
  cases hrefusal : store.refusal? .update .counters none (tallies ≠ []) none with
  | some error => exact bind_error (permit_some hrefusal) _
  | none => exact bind_ok (permit_none hrefusal) _

/-- Rows that count nothing sum up to nothing. -/
theorem TallySum.of_map_zero (tallies : List Tally) :
    TallySum.of (tallies.map fun _ ↦ .exact 0) = .exact 0 := by
  unfold TallySum.of
  induction tallies with
  | nil => rfl
  | cons tally tallies ih =>
    have hadd : (TallySum.exact 0).add (.exact 0) = .exact 0 := by decide
    rw [List.map_cons, List.foldl_cons, hadd, ih]

end

/-- Rows that count nothing leave no questions asked. -/
theorem run_questionsAsked_of_zeros {store : Store} {tallies : List Tally}
    (h : store.counters = some (tallies.map fun _ ↦ .exact 0)) :
    questionsAsked.run store = (.ok 0, store) := by
  have hread := Statement.questionsAsked_of_some h
  rw [TallySum.of_map_zero] at hread
  exact run_execute_ok hread

/-- Taking the counter either fails and leaves the store as it was, or gives the sum of the rows and
sets each of them to 0. -/
theorem takeWithin_cases (store : Store) :
    (∃ error, takeWithin.run store = (.error error, store)) ∨
      ∃ tallies asked, store.counters = some tallies ∧ TallySum.of tallies = .exact asked ∧
        store.refusal? .update .counters none (tallies ≠ []) none = none ∧
        takeWithin.run store =
          (.ok asked, { store with counters := some (tallies.map fun _ ↦ .exact 0) }) := by
  unfold takeWithin
  cases hcounters : store.counters with
  | none =>
    have hread : Statement.questionsAsked store = .error (.missingTable Table.counters.name) :=
      Statement.bind_error (Statement.content_none hcounters) _
    rw [run_bind_error (run_execute_error hread)]
    exact .inl ⟨_, rfl⟩
  | some tallies =>
    have hread := Statement.questionsAsked_of_some hcounters
    cases hsum : TallySum.of tallies with
    | overflowed =>
      rw [hsum] at hread
      rw [run_bind_error (run_execute_error hread)]
      exact .inl ⟨_, rfl⟩
    | inexact =>
      rw [hsum] at hread
      rw [run_bind_error (run_execute_error hread)]
      exact .inl ⟨_, rfl⟩
    | exact asked =>
      rw [hsum] at hread
      rw [run_bind_ok (run_execute_ok hread)]
      rw [run_bind, run_execute, Statement.updateCounters_of_some hcounters]
      cases hrefusal : store.refusal? .update .counters none (tallies ≠ []) none with
      | some error => exact .inl ⟨_, rfl⟩
      | none => exact .inr ⟨tallies, asked, rfl, hsum, hrefusal, rfl⟩

/-- A row is appended to the graph table unless the store refuses it. -/
theorem Statement.appendGraph_apply {store : Store} {table : GraphTable}
    (h : store.graphs = some table) (row : Nat → GraphRow) :
    appendGraph row store =
      match store.refusal? .insert .graphs none true (table.breach? row) with
      | some error => .error error
      | none => .ok (table.lastId + 1, { store with graphs := some (table.append row) }) := by
  unfold appendGraph
  rw [bind_ok (content_some h)]
  cases hrefusal : store.refusal? .insert .graphs none true (table.breach? row) with
  | some error => exact bind_error (permit_some hrefusal) _
  | none => exact bind_ok (permit_none hrefusal) _

/-- Why a store refuses the row of a sample. -/
def rejection? (store : Store) (table : GraphTable) (sample : Sample) : Option StoreError :=
  store.refusal? .insert .graphs none true (table.breach? fun id ↦ .ofSample id sample)

/-- Writing a sample fails for want of the table or a column, or because the store refuses it;
otherwise it appends one row and touches nothing else. -/
theorem run_insertSample (sample : Sample) (store : Store) :
    (insertSample sample).run store =
      match store.graphs with
      | none => (.error (.missingTable Table.graphs.name), store)
      | some table =>
        match table.lacking? with
        | some column => (.error (.unknownColumn Table.graphs.name column), store)
        | none =>
          match rejection? store table sample with
          | some error => (.error error, store)
          | none =>
            (.ok (table.lastId + 1),
              { store with graphs := some (table.append fun id ↦ .ofSample id sample) }) := by
  unfold insertSample Statement.insertGraph
  cases hgraphs : store.graphs with
  | none => exact run_execute_error (Statement.bind_error (Statement.content_none hgraphs) _)
  | some table =>
    dsimp only
    rw [run_execute, Statement.bind_ok (Statement.content_some hgraphs)]
    cases table.lacking? with
    | some column => rfl
    | none =>
      dsimp only
      rw [Statement.appendGraph_apply hgraphs, rejection?]
      cases store.refusal? .insert .graphs none true _ <;> rfl

/-- Only a value that is no number is kept as none. -/
theorem isNaN_stored (x : Double) : x.stored.isNaN = x.isNaN := by
  unfold Double.stored
  split
  · rename_i hzero
    rw [hzero]
    decide
  · rfl

/-- The row of a sample breaks a rule of the table if no number is left for it or its load is no
number. -/
theorem breach?_ofSample (table : GraphTable) (sample : Sample) :
    (table.breach? fun id ↦ .ofSample id sample) =
      if greatestId ≤ table.lastId then some .full
      else if sample.cpu.isNaN then some (.missingValue (Table.graphs.name ++ ".cpu"))
      else none := by
  have hload : (GraphRow.ofSample (table.lastId + 1) sample).cpu.isMissing = sample.cpu.isNaN :=
    isNaN_stored sample.cpu
  unfold GraphTable.breach?
  rw [hload]

/-- A store takes in the row of a sample if it is not locked, a number is left, the load is a number
and no guard forbids new rows. -/
theorem rejection?_eq_none_iff {store : Store} {table : GraphTable} {sample : Sample} :
    rejection? store table sample = none ↔
      store.locked = false ∧ (table.lastId < greatestId ∧ sample.cpu.isNaN = false) ∧
        store.guard? .insert .graphs none = none := by
  rw [rejection?, refusal?_eq_none_iff, breach?_ofSample]
  by_cases hroom : greatestId ≤ table.lastId
  · simp [hroom, Nat.not_lt.mpr hroom]
  · cases sample.cpu.isNaN <;> simp [hroom, Nat.not_le.mp hroom]

/-- A sample becomes a row where all columns are there and the store does not refuse it. -/
theorem run_insertSample_ok {store : Store} {table : GraphTable} {sample : Sample}
    (graphs : store.graphs = some table) (complete : table.lacking? = none)
    (taken : rejection? store table sample = none) :
    (insertSample sample).run store =
      (.ok (table.lastId + 1),
        { store with graphs := some (table.append fun id ↦ .ofSample id sample) }) := by
  rw [run_insertSample, graphs]
  dsimp only
  rw [complete, taken]

/-- Writing a sample either fails and leaves the store as it was, or one row is appended. -/
theorem insertSample_cases (sample : Sample) (store : Store) :
    (∃ error, (insertSample sample).run store = (.error error, store)) ∨
      ∃ table, store.graphs = some table ∧ table.lacking? = none ∧
        rejection? store table sample = none ∧
        (insertSample sample).run store =
          (.ok (table.lastId + 1),
            { store with graphs := some (table.append fun id ↦ .ofSample id sample) }) := by
  rw [run_insertSample]
  cases store.graphs with
  | none => exact .inl ⟨_, rfl⟩
  | some table =>
    dsimp only
    cases hcomplete : table.lacking? with
    | some column => exact .inl ⟨_, rfl⟩
    | none =>
      dsimp only
      cases hrejection : rejection? store table sample with
      | some error => exact .inl ⟨_, rfl⟩
      | none => exact .inr ⟨table, rfl, hcomplete, hrejection, rfl⟩

/-- A store takes samples: its counter can be read and set back, and its graph table has all columns
and a number for another row and is not closed to new rows. -/
structure TakesSamples (store : Store) (tallies : List Tally) (asked : Int64) (table : GraphTable) :
    Prop where
  counters : store.counters = some tallies
  sum : TallySum.of tallies = .exact asked
  changes : store.refusal? .update .counters none (tallies ≠ []) none = none
  graphs : store.graphs = some table
  complete : table.lacking? = none
  room : table.lastId < greatestId
  grows : store.refusal? .insert .graphs none true none = none

section

variable {store : Store} {tallies : List Tally} {asked : Int64} {table : GraphTable}

/-- A store that takes samples was not opened only to be read. -/
theorem TakesSamples.unlocked (h : TakesSamples store tallies asked table) :
    store.locked = false :=
  (refusal?_eq_none_iff.mp h.grows).1

/-- Recording a sample either fails and leaves the store as it was, or moves the sum of the counter
into a new row of the graph table, sets the counter to 0 and touches nothing else. -/
theorem recordSample_cases (sample : Sample) (store : Store) :
    (∃ error, (recordSample sample).run store = (.error error, store)) ∨
      ∃ tallies asked table, TakesSamples store tallies asked table ∧ sample.cpu.isNaN = false ∧
        (recordSample sample).run store =
          (.ok { sample with questionsAsked := asked },
            { store with
              counters := some (tallies.map fun _ ↦ .exact 0)
              graphs := some (table.append fun id ↦
                .ofSample id { sample with questionsAsked := asked }) }) := by
  unfold recordSample
  rw [run_transaction, run_bind]
  rcases takeWithin_cases store with
    ⟨error, htake⟩ | ⟨tallies, asked, hcounters, hsum, hchanges, htake⟩
  · rw [htake]
    exact .inl ⟨error, rfl⟩
  · rw [htake]
    dsimp only
    rcases insertSample_cases { sample with questionsAsked := asked }
        { store with counters := some (tallies.map fun _ ↦ .exact 0) } with
      ⟨error, hinsert⟩ | ⟨table, hgraphs, hcomplete, htaken, hinsert⟩
    · rw [run_bind_error hinsert]
      exact .inl ⟨error, rfl⟩
    · rw [run_bind_ok hinsert]
      obtain ⟨hunlocked, ⟨hroom, hload⟩, hguard⟩ := rejection?_eq_none_iff.mp htaken
      have hgrows : store.refusal? .insert .graphs none true none = none :=
        refusal?_eq_none_iff.mpr ⟨hunlocked, rfl, fun _ ↦ hguard⟩
      exact .inr ⟨tallies, asked, table,
        ⟨hcounters, hsum, hchanges, hgraphs, hcomplete, hroom, hgrows⟩, hload, rfl⟩

/-- A sample whose load is a number becomes a row of such a store. -/
theorem TakesSamples.rejection?_eq_none (h : TakesSamples store tallies asked table)
    {sample : Sample} (load : sample.cpu.isNaN = false) : rejection? store table sample = none := by
  obtain ⟨hunlocked, -, hguard⟩ := refusal?_eq_none_iff.mp h.grows
  exact rejection?_eq_none_iff.mpr ⟨hunlocked, ⟨h.room, load⟩, hguard rfl⟩

/-- The counter of such a store is read. -/
theorem TakesSamples.questionsAsked_eq (h : TakesSamples store tallies asked table) :
    Statement.questionsAsked store = .ok (asked, store) := by
  rw [Statement.questionsAsked_of_some h.counters, h.sum]

/-- Such a store gives the questions asked and sets them back. -/
theorem TakesSamples.run_takeWithin (h : TakesSamples store tallies asked table) :
    takeWithin.run store =
      (.ok asked, { store with counters := some (tallies.map fun _ ↦ .exact 0) }) := by
  unfold takeWithin
  rw [run_bind_ok (run_execute_ok h.questionsAsked_eq), run_bind, run_execute,
    Statement.updateCounters_of_some h.counters, h.changes]
  rfl

/-- Such a store records every sample whose load is a number. -/
theorem TakesSamples.run_recordSample (h : TakesSamples store tallies asked table) {sample : Sample}
    (load : sample.cpu.isNaN = false) :
    (recordSample sample).run store =
      (.ok { sample with questionsAsked := asked },
        { store with
          counters := some (tallies.map fun _ ↦ .exact 0)
          graphs := some (table.append fun id ↦
            .ofSample id { sample with questionsAsked := asked }) }) := by
  -- Neither the counter nor the questions asked play a part in whether a row is refused.
  have htaken : rejection? { store with counters := some (tallies.map fun _ ↦ .exact 0) } table
      { sample with questionsAsked := asked } = none := h.rejection?_eq_none load
  have hinsert := run_insertSample_ok (by exact h.graphs) h.complete htaken
  unfold recordSample
  rw [run_transaction, run_bind_ok h.run_takeWithin]
  dsimp only
  rw [run_bind_ok hinsert]
  rfl

/-- Only a store that takes samples records one, and its load has to be a number. -/
theorem TakesSamples.of_run_recordSample {after : Store} {sample written : Sample}
    (h : (recordSample sample).run store = (.ok written, after)) :
    (∃ tallies asked table, TakesSamples store tallies asked table) ∧ sample.cpu.isNaN = false := by
  rcases recordSample_cases sample store with
    ⟨error, hrefused⟩ | ⟨tallies, asked, table, htakes, hload, -⟩
  · cases (Prod.mk.inj (h.symm.trans hrefused)).1
  · exact ⟨⟨tallies, asked, table, htakes⟩, hload⟩

end

/-- The rows of a graph table dated before a moment, by the bytes of their date. -/
def GraphTable.before (table : GraphTable) (cutoff : String) : List GraphRow :=
  table.rows.filter fun row ↦ row.entryDate < Octets.ofString cutoff

/-- A graph table without the rows dated before a moment. -/
def GraphTable.since (table : GraphTable) (cutoff : String) : GraphTable :=
  { table with rows := table.rows.filter fun row ↦ ¬ row.entryDate < Octets.ofString cutoff }

section

variable {table : GraphTable} {sample : Sample} {cutoff : String}

/-- The row of a sample is dated as the sample is. -/
theorem entryDate_ofSample_lt_iff {id : Nat} :
    (GraphRow.ofSample id sample).entryDate < Octets.ofString cutoff ↔
      sample.entryDate < cutoff :=
  Octets.ofString_lt_ofString

/-- A new sample that is not too old does not add to the old ones. -/
theorem GraphTable.before_append (h : ¬ sample.entryDate < cutoff) :
    (table.append fun id ↦ .ofSample id sample).before cutoff = table.before cutoff := by
  have hnew : [GraphRow.ofSample (table.lastId + 1) sample].filter
      (fun row ↦ row.entryDate < Octets.ofString cutoff) = [] :=
    List.filter_cons_of_neg (by simpa [entryDate_ofSample_lt_iff] using h)
  unfold before append
  rw [List.filter_append, hnew, List.append_nil]

/-- A new sample that is not too old stays when the old ones go. -/
theorem GraphTable.since_append (h : ¬ sample.entryDate < cutoff) :
    (table.append fun id ↦ .ofSample id sample).since cutoff =
      (table.since cutoff).append fun id ↦ .ofSample id sample := by
  have hnew : [GraphRow.ofSample (table.lastId + 1) sample].filter
      (fun row ↦ ¬ row.entryDate < Octets.ofString cutoff) =
        [GraphRow.ofSample (table.lastId + 1) sample] :=
    List.filter_cons_of_pos (by simpa [entryDate_ofSample_lt_iff] using h)
  unfold since append
  rw [List.filter_append, hnew]

end

/-- Removing samples fails if the store refuses it; otherwise exactly the rows dated before the
cutoff go. -/
theorem run_pruneSamples {store : Store} {table : GraphTable} (h : store.graphs = some table)
    (cutoff : Time.Instant) :
    (pruneSamples cutoff).run store =
      match store.refusal? .delete .graphs none (table.before cutoff.stored ≠ []) none with
      | some error => (.error error, store)
      | none =>
        (.ok (table.before cutoff.stored).length,
          { store with graphs := some (table.since cutoff.stored) }) := by
  unfold pruneSamples Statement.pruneGraphs
  rw [run_execute, Statement.bind_ok (Statement.content_some h)]
  have hold : (table.rows.partition fun row ↦ row.entryDate < Octets.ofString cutoff.stored).1 =
      table.before cutoff.stored := by
    rw [List.partition_eq_filter_filter]
    rfl
  have hkept : (table.rows.partition fun row ↦ row.entryDate < Octets.ofString cutoff.stored).2 =
      (table.since cutoff.stored).rows := by
    simp only [List.partition_eq_filter_filter, GraphTable.since, Function.comp_def, decide_not]
  dsimp only
  rw [hold, hkept]
  cases hrefusal :
      store.refusal? .delete .graphs none (table.before cutoff.stored ≠ []) none with
  | some error => rw [Statement.bind_error (Statement.permit_some hrefusal)]
  | none =>
    rw [Statement.bind_ok (Statement.permit_none hrefusal)]
    rfl

/-- Removing samples either fails and leaves the store as it was, or exactly the rows dated before
the cutoff go. -/
theorem pruneSamples_cases (cutoff : Time.Instant) (store : Store) :
    (∃ error, (pruneSamples cutoff).run store = (.error error, store)) ∨
      ∃ table, store.graphs = some table ∧
        (pruneSamples cutoff).run store =
          (.ok (table.before cutoff.stored).length,
            { store with graphs := some (table.since cutoff.stored) }) := by
  cases hgraphs : store.graphs with
  | none =>
    exact .inl ⟨_, run_execute_error (Statement.bind_error (Statement.content_none hgraphs) _)⟩
  | some table =>
    rw [run_pruneSamples hgraphs]
    cases store.refusal? .delete .graphs none (table.before cutoff.stored ≠ []) none with
    | some error => exact .inl ⟨error, rfl⟩
    | none => exact .inr ⟨table, rfl, rfl⟩

end BotOps.Store
