import BotOps.Proofs.Store.Adoption
import BotOps.Proofs.Store.DateOrder
import BotOps.Proofs.Text.ByteOrder

/-!
# The list of samples

Samples are inserted, recorded and removed in any order, and some of these acts fail. Whatever
happens, no number of a row is ever given twice (`increasing_ids`), and as long as the samples can
be listed the store behaves like a list in the order of the dates: an act finds the place of its
sample there or cuts the list at a date (`Act.moves`), so after a whole history the samples of one
date are the last ones that were written, in the order of writing (`history_refines_list`).
-/

namespace BotOps.Listing

open BotOps.Metrics BotOps.Store BotOps.Text.Utf8 BotOps.Time

/-- What somebody does to the samples. -/
inductive Act where
  | insert (sample : Sample)
  | record (sample : Sample)
  | prune (cutoff : Instant)
  /-- Whatever else is done to the store, as long as it spares the graph table. -/
  | other (change : Store → Store) (spares : ∀ store, (change store).graphs = store.graphs)

/-- The answer to an act. -/
inductive Answer where
  | inserted (id : Nat)
  | recorded (sample : Sample)
  | pruned (count : Nat)
  | failed (error : StoreError)
  | done
deriving DecidableEq, Repr

/-- The number of a new row that an answer gives. -/
def Answer.id? : Answer → Option Nat
  | .inserted id => some id
  | _ => none

/-- Performs an operation and gives its answer. -/
def answered {α : Type} (operation : Operation α) (answer : α → Answer) (store : Store) :
    Answer × Store :=
  match operation.run store with
  | (.ok a, changed) => (answer a, changed)
  | (.error error, changed) => (.failed error, changed)

/-- The answer to an act, and what the act makes of the store. -/
def Act.perform : Act → Store → Answer × Store
  | .insert sample, store => answered (insertSample sample) .inserted store
  | .record sample, store => answered (recordSample sample) .recorded store
  | .prune cutoff, store => answered (pruneSamples cutoff) .pruned store
  | .other change _, store => (.done, change store)

/-- Acts with their answers one after the other, and what they make of the store. -/
def history : List Act → Store → List (Act × Answer) × Store
  | [], store => ([], store)
  | act :: acts, store =>
    let (answer, changed) := act.perform store
    let (turns, last) := history acts changed
    ((act, answer) :: turns, last)

/-! ## The list -/

/-- A store has a list of samples: they are sorted by the bytes of their dates, and the latest
sample is the last one. -/
structure Lists (store : Store) (samples : List Sample) : Prop where
  listed : listSamples.run store = (.ok samples, store)
  sorted : samples.Pairwise fun a b ↦ bytesOf a.entryDate ≤ bytesOf b.entryDate
  latest : latestSample.run store = (.ok samples.getLast?, store)

/-- What an act makes of the list of samples when it gets its answer from a store. -/
inductive Turns (store : Store) : Act → Answer → List Sample → List Sample → Prop where
  /-- The new sample comes directly behind all that are not dated later. -/
  | inserted {sample : Sample} {earlier later : List Sample} (id : Nat)
      (behind : ∀ other ∈ earlier, bytesOf other.entryDate ≤ bytesOf sample.entryDate)
      (before : ∀ other ∈ later, bytesOf sample.entryDate < bytesOf other.entryDate) :
      Turns store (.insert sample) (.inserted id) (earlier ++ later)
        (earlier ++ kept sample :: later)
  /-- So does a recorded one, which takes over the questions asked. -/
  | recorded {sample : Sample} {asked : Int64} {earlier later : List Sample}
      (counter : questionsAsked.run store = (.ok asked, store))
      (behind : ∀ other ∈ earlier, bytesOf other.entryDate ≤ bytesOf sample.entryDate)
      (before : ∀ other ∈ later, bytesOf sample.entryDate < bytesOf other.entryDate) :
      Turns store (.record sample) (.recorded { sample with questionsAsked := asked })
        (earlier ++ later) (earlier ++ kept { sample with questionsAsked := asked } :: later)
  /-- As many samples go from the front as the answer says, all those dated before the cutoff. -/
  | pruned {cutoff : Instant} {old young : List Sample}
      (before : ∀ sample ∈ old, bytesOf sample.entryDate < bytesOf cutoff.stored)
      (since : ∀ sample ∈ young, bytesOf cutoff.stored ≤ bytesOf sample.entryDate) :
      Turns store (.prune cutoff) (.pruned old.length) (old ++ young) young
  | failed {samples : List Sample} (act : Act) (error : StoreError) :
      Turns store act (.failed error) samples samples
  | spared {samples : List Sample} (change : Store → Store)
      (spares : ∀ store, (change store).graphs = store.graphs) :
      Turns store (.other change spares) .done samples samples

/-- The sample that an act has written if it gets this answer. -/
def Act.written? : Act → Answer → Option Sample
  | .insert sample, .inserted _ => some (kept sample)
  | .record _, .recorded sample => some (kept sample)
  | _, _ => none

/-- The samples that a history has written. -/
def written (turns : List (Act × Answer)) : List Sample :=
  turns.filterMap fun turn ↦ turn.1.written? turn.2

/-- The numbers of new rows that a history has given. -/
def ids (turns : List (Act × Answer)) : List Nat := turns.filterMap fun turn ↦ turn.2.id?

/-- The samples of one date. -/
def dated (date : String) (samples : List Sample) : List Sample :=
  samples.filter fun sample ↦ sample.entryDate = date

section

variable {store : Store} {act : Act} {answer : Answer} {samples next : List Sample}

private theorem dated_append (date : String) (first second : List Sample) :
    dated date (first ++ second) = dated date first ++ dated date second :=
  List.filter_append ..

/-- In front of later samples a new one is the last one of its date. -/
theorem dated_insert (date : String) (sample : Sample) {earlier later : List Sample}
    (before : ∀ other ∈ later, bytesOf sample.entryDate < bytesOf other.entryDate) :
    dated date (earlier ++ sample :: later) = dated date ((earlier ++ later) ++ [sample]) := by
  rw [← List.singleton_append]
  simp only [dated_append]
  by_cases hdate : sample.entryDate = date
  · have hnone : dated date later = [] := by
      refine List.filter_eq_nil_iff.mpr fun other hother hsame ↦ ?_
      have hlt := bytesOf_lt_bytesOf.mp (before other hother)
      rw [of_decide_eq_true hsame, hdate] at hlt
      exact String.lt_irrefl _ hlt
    rw [hnone, List.append_nil, List.append_nil]
  · have hnone : dated date [sample] = [] := List.filter_cons_of_neg (by simpa using hdate)
    rw [hnone, List.nil_append, List.append_nil]

/-- Of each date the last ones stay, and what is written comes behind them. -/
theorem Turns.dated_suffix (h : Turns store act answer samples next) (date : String) :
    dated date next <:+ dated date (samples ++ (act.written? answer).toList) := by
  cases h with
  | @inserted sample _ _ id behind before =>
    rw [dated_insert date (kept sample) before]
    exact List.suffix_rfl
  | @recorded sample asked _ _ counter behind before =>
    rw [dated_insert date (kept { sample with questionsAsked := asked }) before]
    exact List.suffix_rfl
  | pruned before since =>
    change _ <:+ dated date ((_ ++ next) ++ [])
    rw [List.append_nil, dated_append]
    exact List.suffix_append _ _
  | failed act error =>
    have hnone : act.written? (.failed error) = none := by cases act <;> rfl
    rw [hnone]
    exact (List.append_nil samples).symm ▸ List.suffix_rfl
  | spared change spares => exact (List.append_nil samples).symm ▸ List.suffix_rfl

end

/-! ## One act -/

/-- The greatest number that a row of the graph table ever had, 0 if there is no such table. -/
def lastNumber (store : Store) : Nat := (store.graphs.map GraphTable.lastId).getD 0

private theorem lastNumber_eq {store : Store} {table : GraphTable} (h : store.graphs = some table) :
    lastNumber store = table.lastId := by
  rw [lastNumber, h]
  rfl

/-- A number that an act gives to a new row is greater than all that rows had before. -/
theorem Act.lastNumber_perform (act : Act) (store : Store) :
    lastNumber store ≤ lastNumber (act.perform store).2 ∧
      ∀ id ∈ (act.perform store).1.id?,
        lastNumber store < id ∧ id ≤ lastNumber (act.perform store).2 := by
  cases act with
  | insert sample =>
    rw [Act.perform, answered]
    rcases insertSample_cases sample store with ⟨error, hrun⟩ | ⟨table, hgraphs, -, -, hrun⟩
    · rw [hrun]
      exact ⟨Nat.le_refl _, nofun⟩
    · rw [hrun, lastNumber_eq hgraphs]
      refine ⟨Nat.le_succ _, ?_⟩
      rintro id ⟨⟩
      exact ⟨Nat.lt_succ_self _, Nat.le_refl _⟩
  | record sample =>
    rw [Act.perform, answered]
    rcases recordSample_cases sample store with
      ⟨error, hrun⟩ | ⟨tallies, asked, table, htakes, -, hrun⟩
    · rw [hrun]
      exact ⟨Nat.le_refl _, nofun⟩
    · rw [hrun, lastNumber_eq htakes.graphs]
      exact ⟨Nat.le_succ _, nofun⟩
  | prune cutoff =>
    rw [Act.perform, answered]
    rcases pruneSamples_cases cutoff store with ⟨error, hrun⟩ | ⟨table, hgraphs, hrun⟩
    · rw [hrun]
      exact ⟨Nat.le_refl _, nofun⟩
    · rw [hrun, lastNumber_eq hgraphs]
      exact ⟨Nat.le_refl _, nofun⟩
  | other change spares =>
    have hsame : lastNumber (change store) = lastNumber store := by
      rw [lastNumber, spares store, lastNumber]
    exact ⟨Nat.le_of_eq hsame.symm, nofun⟩

/-- The samples of a table in the order of their dates. -/
def samplesOf (table : GraphTable) : List Sample := table.sorted.map GraphRow.sample

/-- A graph table has all columns of a sample, and each of its rows can be read. -/
structure Listable (table : GraphTable) : Prop where
  complete : table.lacking? = none
  legible : ∀ row ∈ table.rows, row.IsLegible

/-- An act with this answer turns one table into another, and its samples can still be listed. -/
structure Moves (store : Store) (act : Act) (answer : Answer) (table next : GraphTable) : Prop where
  listable : Listable next
  turns : Turns store act answer (samplesOf table) (samplesOf next)

section

variable {store : Store} {table : GraphTable}

private theorem Listable.sorted (h : Listable table) : ∀ row ∈ table.sorted, row.IsLegible :=
  fun row hrow ↦ h.legible row (table.perm_sorted.mem_iff.mp hrow)

/-- A table stays listable when a sample is written. -/
theorem Listable.append (h : Listable table) (sample : Sample) :
    Listable (table.append fun id ↦ .ofSample id sample) where
  complete := h.complete
  legible row hrow := by
    rcases List.mem_append.mp hrow with hold | hnew
    · exact h.legible row hold
    · rw [List.mem_singleton.mp hnew]
      exact GraphRow.isLegible_of_read (read_ofSample _ sample)

/-- A table stays listable when rows are removed. -/
theorem Listable.since (h : Listable table) (cutoff : String) : Listable (table.since cutoff) where
  complete := h.complete
  legible row hrow := h.legible row (List.mem_of_mem_filter hrow)

/-- A store with a listable table has a list of samples. -/
theorem Listable.lists (h : Listable table) (graphs : store.graphs = some table) :
    Lists store (samplesOf table) where
  listed := run_listSamples_of_legible graphs h.complete h.legible
  sorted := by
    refine List.pairwise_map.mpr (table.inDateOrder_sorted.imp_of_mem fun ha hb hle ↦ ?_)
    rw [(h.sorted _ ha).entryDate_eq, (h.sorted _ hb).entryDate_eq] at hle
    exact bytesOf_le_bytesOf.mpr (Octets.ofString_le_ofString.mp hle)
  latest := by
    have hlatest : ∀ row ∈ table.latest?, row.IsLegible := fun row hrow ↦
      h.sorted row (List.mem_of_getLast? (table.latest?_eq_getLast? ▸ hrow))
    rw [run_latestSample_of_legible graphs h.complete hlatest, table.latest?_eq_getLast?, samplesOf,
      List.getLast?_map]

/-- A new row has its place in the list. -/
theorem Listable.exists_samplesOf_append (h : Listable table) (sample : Sample) :
    ∃ earlier later, samplesOf table = earlier ++ later ∧
      samplesOf (table.append fun id ↦ .ofSample id sample) = earlier ++ kept sample :: later ∧
      (∀ other ∈ earlier, bytesOf other.entryDate ≤ bytesOf sample.entryDate) ∧
      ∀ other ∈ later, bytesOf sample.entryDate < bytesOf other.entryDate := by
  obtain ⟨earlier, later, hold, hnew, hbehind, hbefore⟩ :=
    table.sorted_append fun id ↦ .ofSample id sample
  refine ⟨earlier.map GraphRow.sample, later.map GraphRow.sample, ?_, ?_, ?_, ?_⟩
  · rw [samplesOf, hold, List.map_append]
  · rw [samplesOf, hnew, List.map_append, List.map_cons, sample_ofSample]
  · refine List.forall_mem_map.mpr fun row hrow ↦ bytesOf_le_bytesOf.mpr ?_
    have hlegible := h.sorted row (hold ▸ List.mem_append_left later hrow)
    exact Octets.ofString_le_ofString.mp (hlegible.entryDate_eq ▸ hbehind row hrow)
  · refine List.forall_mem_map.mpr fun row hrow ↦ bytesOf_lt_bytesOf.mpr ?_
    have hlegible := h.sorted row (hold ▸ List.mem_append_right earlier hrow)
    exact Octets.ofString_lt_ofString.mp (hlegible.entryDate_eq ▸ hbefore row hrow)

private theorem moves_insert (sample : Sample) (graphs : store.graphs = some table)
    (listable : Listable table) :
    ∃ next, ((Act.insert sample).perform store).2.graphs = some next ∧
      Moves store (.insert sample) ((Act.insert sample).perform store).1 table next := by
  rw [Act.perform, answered]
  rcases insertSample_cases sample store with ⟨error, hrun⟩ | ⟨found, hfound, -, -, hrun⟩
  · rw [hrun]
    exact ⟨table, graphs, listable, .failed _ error⟩
  · obtain rfl : table = found := Option.some.inj (graphs.symm.trans hfound)
    rw [hrun]
    obtain ⟨earlier, later, hold, hnew, hbehind, hbefore⟩ := listable.exists_samplesOf_append sample
    refine ⟨_, rfl, listable.append sample, ?_⟩
    rw [hold, hnew]
    exact .inserted _ hbehind hbefore

private theorem moves_record (sample : Sample) (graphs : store.graphs = some table)
    (listable : Listable table) :
    ∃ next, ((Act.record sample).perform store).2.graphs = some next ∧
      Moves store (.record sample) ((Act.record sample).perform store).1 table next := by
  rw [Act.perform, answered]
  rcases recordSample_cases sample store with
    ⟨error, hrun⟩ | ⟨tallies, asked, found, htakes, -, hrun⟩
  · rw [hrun]
    exact ⟨table, graphs, listable, .failed _ error⟩
  · obtain rfl : table = found := Option.some.inj (graphs.symm.trans htakes.graphs)
    rw [hrun]
    obtain ⟨earlier, later, hold, hnew, hbehind, hbefore⟩ :=
      listable.exists_samplesOf_append { sample with questionsAsked := asked }
    refine ⟨_, rfl, listable.append _, ?_⟩
    rw [hold, hnew]
    exact .recorded (run_execute_ok htakes.questionsAsked_eq) hbehind hbefore

private theorem moves_prune (cutoff : Instant) (graphs : store.graphs = some table)
    (listable : Listable table) :
    ∃ next, ((Act.prune cutoff).perform store).2.graphs = some next ∧
      Moves store (.prune cutoff) ((Act.prune cutoff).perform store).1 table next := by
  rw [Act.perform, answered]
  rcases pruneSamples_cases cutoff store with ⟨error, hrun⟩ | ⟨found, hfound, hrun⟩
  · rw [hrun]
    exact ⟨table, graphs, listable, .failed _ error⟩
  · obtain rfl : table = found := Option.some.inj (graphs.symm.trans hfound)
    rw [hrun]
    refine ⟨_, rfl, listable.since _, ?_⟩
    obtain ⟨old, hsorted, hcount, hbefore, hsince⟩ := table.sorted_since cutoff.stored
    have hold : samplesOf table =
        old.map GraphRow.sample ++ samplesOf (table.since cutoff.stored) := by
      rw [samplesOf, hsorted, List.map_append]
      rfl
    have hlength : (table.before cutoff.stored).length = (old.map GraphRow.sample).length := by
      rw [List.length_map, hcount]
    rw [hold, hlength]
    refine .pruned ?_ ?_
    · refine List.forall_mem_map.mpr fun row hrow ↦ ?_
      have hmem : row ∈ table.sorted := by
        rw [hsorted]
        exact List.mem_append_left _ hrow
      have hlt := hbefore row hrow
      rw [(listable.sorted row hmem).entryDate_eq, Octets.ofString_lt_ofString] at hlt
      exact bytesOf_lt_bytesOf.mpr hlt
    · refine List.forall_mem_map.mpr fun row hrow ↦ ?_
      have hle := hsince row hrow
      rw [((listable.since cutoff.stored).sorted row hrow).entryDate_eq,
        Octets.ofString_le_ofString] at hle
      exact bytesOf_le_bytesOf.mpr hle

/-- Every act keeps the table listable, and makes of the list what its answer says. -/
theorem Act.moves (act : Act) (graphs : store.graphs = some table) (listable : Listable table) :
    ∃ next, (act.perform store).2.graphs = some next ∧
      Moves store act (act.perform store).1 table next := by
  cases act with
  | insert sample => exact moves_insert sample graphs listable
  | record sample => exact moves_record sample graphs listable
  | prune cutoff => exact moves_prune cutoff graphs listable
  | other change spares =>
    exact ⟨table, (spares store).trans graphs, listable, .spared change spares⟩

end

/-! ## A whole history -/

private theorem history_cons (act : Act) (acts : List Act) (store : Store) :
    history (act :: acts) store =
      ((act, (act.perform store).1) :: (history acts (act.perform store).2).1,
        (history acts (act.perform store).2).2) := rfl

private theorem ids_cons (act : Act) (answer : Answer) (turns : List (Act × Answer)) :
    ids ((act, answer) :: turns) = answer.id?.toList ++ ids turns := by
  cases hid : answer.id? <;> simp [ids, hid]

private theorem written_cons (act : Act) (answer : Answer) (turns : List (Act × Answer)) :
    written ((act, answer) :: turns) = (act.written? answer).toList ++ written turns := by
  cases hwritten : act.written? answer <;> simp [written, hwritten]

/-- Each number that a history gives is greater than those before it, and than all that rows had
before, whether or not the samples can be listed. -/
theorem increasing_ids (acts : List Act) (store : Store) :
    (∀ id ∈ ids (history acts store).1, lastNumber store < id) ∧
      (ids (history acts store).1).Pairwise (· < ·) := by
  induction acts generalizing store with
  | nil => exact ⟨nofun, .nil⟩
  | cons act acts ih =>
    obtain ⟨hle, hid⟩ := act.lastNumber_perform store
    obtain ⟨hlater, hincreasing⟩ := ih (act.perform store).2
    rw [history_cons, ids_cons]
    refine ⟨fun id hmem ↦ ?_, List.pairwise_append.mpr ⟨?_, hincreasing, fun a ha b hb ↦ ?_⟩⟩
    · rcases List.mem_append.mp hmem with hfirst | hrest
      · exact (hid id (Option.mem_toList.mp hfirst)).1
      · exact Nat.lt_of_le_of_lt hle (hlater id hrest)
    · cases (act.perform store).1.id? <;> simp
    · exact Nat.lt_of_le_of_lt (hid a (Option.mem_toList.mp ha)).2 (hlater b hb)

/-- What a history of acts with their answers makes of a listable table. -/
structure Goes (turns : List (Act × Answer)) (table last : GraphTable) : Prop where
  listable : Listable last
  suffix : ∀ date, dated date (samplesOf last) <:+ dated date (samplesOf table ++ written turns)

/-- A history goes on from where its first act has moved the table. -/
theorem Moves.goes {store : Store} {act : Act} {answer : Answer} {table next last : GraphTable}
    {turns : List (Act × Answer)} (first : Moves store act answer table next)
    (rest : Goes turns next last) : Goes ((act, answer) :: turns) table last where
  listable := rest.listable
  suffix date := by
    obtain ⟨gone, hgone⟩ := first.turns.dated_suffix date
    refine (rest.suffix date).trans ⟨gone, ?_⟩
    rw [written_cons, ← List.append_assoc, dated_append, dated_append _ (_ ++ _), ← hgone,
      List.append_assoc]

/-- Whatever is done, the table stays listable. -/
theorem exists_goes (acts : List Act) {store : Store} {table : GraphTable}
    (graphs : store.graphs = some table) (listable : Listable table) :
    ∃ last, (history acts store).2.graphs = some last ∧ Goes (history acts store).1 table last := by
  induction acts generalizing store table with
  | nil =>
    exact ⟨table, graphs, listable,
      fun _ ↦ (List.append_nil (samplesOf table)).symm ▸ List.suffix_rfl⟩
  | cons act acts ih =>
    obtain ⟨next, hnext, hmoves⟩ := act.moves graphs listable
    obtain ⟨last, hlast, hgoes⟩ := ih hnext hmoves.listable
    rw [history_cons]
    exact ⟨last, hlast, hmoves.goes hgoes⟩

/-- A store that lists its samples has a listable table, and lists those of its rows. -/
theorem exists_listable {store : Store} {samples : List Sample}
    (listed : listSamples.run store = (.ok samples, store)) :
    ∃ table, store.graphs = some table ∧ Listable table ∧ samples = samplesOf table := by
  obtain ⟨table, graphs, complete, legible⟩ := exists_of_run_listSamples_ok listed
  have listable : Listable table := ⟨complete, legible⟩
  exact ⟨table, graphs, listable,
    Except.ok.inj (Prod.mk.inj (listed.symm.trans (listable.lists graphs).listed)).1⟩

/-- A store refines an ordered list, whatever acts were done. The numbers given to new rows
increase. If its samples can be listed now they are in the order of their dates, and whatever is
done next makes of the list what its answer says. If they could be listed at the start they can be
so now, those of one date in the order in which they were written. -/
theorem history_refines_list (acts : List Act) (start : Store) :
    let turns := (history acts start).1
    let reached := (history acts start).2
    (ids turns).Pairwise (· < ·) ∧
      (∀ samples, listSamples.run reached = (.ok samples, reached) →
        Lists reached samples ∧ ∀ act : Act, ∃ next, Lists (act.perform reached).2 next ∧
          Turns reached act (act.perform reached).1 samples next) ∧
      ∀ first, listSamples.run start = (.ok first, start) →
        Lists start first ∧ ∃ samples, Lists reached samples ∧
          ∀ date, dated date samples <:+ dated date (first ++ written turns) := by
  intro turns reached
  refine ⟨(increasing_ids acts start).2, fun samples listed ↦ ?_, fun first listed ↦ ?_⟩
  · obtain ⟨table, graphs, listable, rfl⟩ := exists_listable listed
    refine ⟨listable.lists graphs, fun act ↦ ?_⟩
    obtain ⟨next, hnext, hmoves⟩ := act.moves graphs listable
    exact ⟨samplesOf next, hmoves.listable.lists hnext, hmoves.turns⟩
  · obtain ⟨table, graphs, listable, rfl⟩ := exists_listable listed
    obtain ⟨last, hlast, hgoes⟩ := exists_goes acts graphs listable
    exact ⟨listable.lists graphs, samplesOf last, hgoes.listable.lists hlast, hgoes.suffix⟩

/-- A sample with a date, a load and a number of kicks. -/
def sampleOf (date : String) (cpu : Double) (kicks : UInt64) : Sample :=
  ⟨date, cpu, .none, .none, kicks, 0, 0, 0⟩

/-- A store with an empty graph table, as it is after all migrations, and seven questions asked. -/
def migratedStore : Store :=
  { Store.empty with counters := some [.exact 7], graphs := some ⟨laterColumns, [], 0⟩ }

/-- Samples that come out of order, with one date twice, a load that is no number and a number of
kicks beyond 2^63; then all rows are removed and one more is inserted. -/
def mixedActs : List Act :=
  [.insert (sampleOf "2024-01-15 12:00:00" .negativeZero 0x8000000000000000),
    .insert (sampleOf "2024-01-15 12:00:00" ⟨0x7ff8000000000000⟩ 1),
    .record (sampleOf "2024-01-14" .zero 2),
    .insert (sampleOf "2024-01-15 12:00:00" .zero 3),
    .prune ⟨1705363200, 0, by decide⟩,
    .insert (sampleOf "" .zero 4)]

/-- The last row is the fourth one, though it is alone. -/
theorem history_refines_list_mixedActs :
    (history mixedActs migratedStore).1.map Prod.snd =
        [.inserted 1, .failed (.missingValue "trivia_graphs.cpu"),
          .recorded { sampleOf "2024-01-14" .zero 2 with questionsAsked := 7 }, .inserted 3,
          .pruned 3, .inserted 4] ∧
      listSamples.run migratedStore = (.ok [], migratedStore) ∧
      (ids (history mixedActs migratedStore).1).Pairwise (· < ·) ∧
      ∃ samples, Lists (history mixedActs migratedStore).2 samples ∧
        (∀ date, dated date samples <:+
          dated date (written (history mixedActs migratedStore).1)) ∧
        ∀ act : Act, ∃ next, Turns (history mixedActs migratedStore).2 act
          (act.perform (history mixedActs migratedStore).2).1 samples next := by
  have hlisted : listSamples.run migratedStore = (.ok [], migratedStore) := by
    have hcomplete : (⟨laterColumns, [], 0⟩ : GraphTable).lacking? = none := by decide +kernel
    rw [run_listSamples_of_legible rfl hcomplete (by simp)]
    simp [GraphTable.sorted]
  obtain ⟨hids, hnow, hstart⟩ := history_refines_list mixedActs migratedStore
  obtain ⟨-, samples, hlists, hdated⟩ := hstart [] hlisted
  obtain ⟨-, hturns⟩ := hnow samples hlists.listed
  exact ⟨by decide +kernel, hlisted, hids, samples, hlists, hdated,
    fun act ↦ (hturns act).imp fun _ ↦ And.right⟩

end BotOps.Listing
