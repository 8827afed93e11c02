import BotOps.Proofs.Billing.Interruption
import BotOps.Proofs.Billing.Settlement

/-!
# Running again

A run that failed is made up for by a later one. Whatever earlier runs left behind, a successful run
decides which of its subscriptions are active just as if it were the first one, and rows that were
there keep all else; and to run once more over the same pages at the same time changes nothing:
`reconcile_converges`.
-/

namespace BotOps.Billing

open BotOps.Store BotOps.Time

/-- A platform that gives some answers in turn, whatever it is asked for. -/
def scripted : Source (List (Except Failure (List Entitlement))) := fun _ answers ↦
  match answers with
  | [] => (.error (.service (.reported "no more pages")), [])
  | answer :: rest => (answer, rest)

/-- A run over some pages: its result and what it makes of a store. -/
def reconcileOver (planId : String) (now : Instant) (pages : List (List Entitlement))
    (store : Store) : Except Failure Stats × Store :=
  let (result, final) := (reconcile planId now scripted).run ⟨store, [], pages.map .ok⟩
  (result, final.store)

/-- A run at another time, with a plan and a platform of its own. -/
structure PastRun (σ : Type) where
  planId : String
  now : Instant
  source : Source σ

/-- What is left when some runs have followed each other, whether or not they failed. -/
def aftermath {σ : Type} (earlier : List (PastRun σ)) (start : Setting σ) : Setting σ :=
  earlier.foldl
    (fun setting past ↦ ((reconcile past.planId past.now past.source).run setting).2) start

/-- Rows stay in their places, and at most their activity and the date of their update change. -/
def RowsStay (before after : List CreditRow) : Prop :=
  ∀ (i : Nat) (row : CreditRow), before[i]? = some row →
    ∃ active updatedAt, after[i]? = some ({ row with active, updatedAt } : CreditRow)

/-- A subscription has a row, and its activity and the date of its update are the given ones. -/
def IsDecided (rows : List CreditRow) (id : String) (active : Int64) (updatedAt : String) : Prop :=
  (∃ row ∈ rows, row.subscriptionId = id) ∧
    ∀ row ∈ rows, row.subscriptionId = id → row.active = active ∧ row.updatedAt = updatedAt

/-- What a successful run over some pages has in common with the run over them on the store before
all runs, and with the run over them on the store that it leaves. -/
structure Converged (planId : String) (now : Instant) (pages : List (List Entitlement))
    (start final : Store) (after : List CreditRow) (stats : Stats) : Prop where
  /-- Where credits are accepted both of these runs succeed. -/
  succeeds : AcceptsCredits start →
    (∃ direct reached, reconcileOver planId now pages start = (.ok direct, reached)) ∧
      ∃ again reached, reconcileOver planId now pages final = (.ok again, reached)
  /-- The run on the store before all runs gives each subscription the same activity. -/
  decides : ∀ direct reached, reconcileOver planId now pages start = (.ok direct, reached) →
    ∃ rows, reached = { start with credits := some rows } ∧
      ∀ record ∈ pages.flatten, ∀ id, record.earns = some id →
        ∃ active, IsDecided after id active now.stored ∧ IsDecided rows id active now.stored
  /-- The run on the store that is left changes nothing. -/
  repeats : ∀ again reached, reconcileOver planId now pages final = (.ok again, reached) →
    reached = final ∧ again.inserted = 0 ∧ again.updated = stats.inserted + stats.updated

namespace RowsStay

variable {before middle after : List CreditRow}

/-- Rows stay where nothing changes. -/
protected theorem refl (rows : List CreditRow) : RowsStay rows rows :=
  fun _ row h ↦ ⟨row.active, row.updatedAt, h⟩

/-- Rows that stay twice stay. -/
protected theorem trans (hfirst : RowsStay before middle) (hsecond : RowsStay middle after) :
    RowsStay before after := by
  intro i row hrow
  obtain ⟨_, _, hmiddle⟩ := hfirst i row hrow
  obtain ⟨active, updatedAt, hafter⟩ := hsecond i _ hmiddle
  exact ⟨active, updatedAt, hafter⟩

/-- Rows stay where each is replaced by one that differs at most in activity and date, and others
follow. -/
theorem of_map {change : CreditRow → CreditRow}
    (h : ∀ row, ∃ active updatedAt, change row = { row with active, updatedAt })
    (rows added : List CreditRow) : RowsStay rows (rows.map change ++ added) := by
  intro i row hrow
  obtain ⟨active, updatedAt, hchange⟩ := h row
  have hlength : i < (rows.map change).length := by
    rw [List.length_map]
    exact (List.getElem?_eq_some_iff.mp hrow).1
  refine ⟨active, updatedAt, ?_⟩
  rw [List.getElem?_append_left hlength, List.getElem?_map, hrow, Option.map_some, hchange]

private theorem putCredit (rows : List CreditRow) (credit : Credit) (now : String) :
    RowsStay rows (Store.putCredit rows credit now) := by
  unfold Store.putCredit
  split
  · rw [← List.append_nil (rows.map _)]
    refine of_map (fun row ↦ ?_) rows []
    split
    · exact ⟨_, _, rfl⟩
    · exact ⟨row.active, row.updatedAt, rfl⟩
  · conv_rhs => rw [← List.map_id rows]
    exact of_map (fun row ↦ ⟨row.active, row.updatedAt, rfl⟩) rows _

private theorem putCredits (rows : List CreditRow) (credits : List Credit) (now : String) :
    RowsStay rows (Store.putCredits rows credits now) := by
  induction credits generalizing rows with
  | nil => exact .refl rows
  | cons credit credits ih => exact (putCredit rows credit now).trans (ih _)

end RowsStay

section

variable {planId : String} {now : Instant}

/-- Whatever runs follow each other, they change nothing but the credits, and rows stay. -/
theorem aftermath_store {σ : Type} (earlier : List (PastRun σ)) {start : Setting σ}
    {before : List CreditRow} (migrated : start.store.credits = some before) :
    ∃ middle, (aftermath earlier start).store = { start.store with credits := some middle } ∧
      RowsStay before middle := by
  induction earlier generalizing start before with
  | nil => exact ⟨before, by rw [← migrated]; rfl, .refl before⟩
  | cons past earlier ih =>
    obtain ⟨fetches, events, hpaged, -⟩ :=
      exists_paged_reconcile past.planId past.now past.source start
    obtain ⟨records, hputs⟩ := hpaged.exists_upsertCredits
    have hstore := run_upsertCredits_ok migrated hputs
    obtain ⟨middle, hmiddle, hstay⟩ := ih (congrArg Store.credits hstore)
    refine ⟨middle, ?_, (RowsStay.putCredits _ _ _).trans hstay⟩
    change (aftermath earlier
      ((reconcile past.planId past.now past.source).run start).2).store = _
    rw [hmiddle, hstore]

/-- A scripted platform gives its answers to any fetches. -/
theorem answers_scripted (fetches : List Fetch) (rest : List (Except Failure (List Entitlement))) :
    Answers scripted (fetches.map Fetch.answer ++ rest) fetches rest := by
  induction fetches with
  | nil => exact .nil rest
  | cons fetch fetches ih => exact .cons rfl ih

/-- A run over pages follows from fetches that brought the first of them. -/
theorem Paged.reconcileOver_eq {store last : Store} {fetches : List Fetch}
    {result : Except Failure Stats} {events : List Event} {pages : List (List Entitlement)}
    {rest : List (Except Failure (List Entitlement))}
    (h : Paged planId now .start store fetches result last events)
    (brought : pages.map .ok = fetches.map Fetch.answer ++ rest) :
    reconcileOver planId now pages store = (result, last) := by
  unfold reconcileOver
  rw [brought, run_reconcile, h.run_pages planId now scripted (answers_scripted fetches rest) []]
  cases result <;> rfl

/-- A page that was handled in one store is handled in another one too, and ends there with the same
cursor, unless the store refuses a credit. -/
theorem pageOutcome_elsewhere {stats read : Stats} {store changed : Store} {page : List Entitlement}
    {events : List Event}
    (handled : pageOutcome planId now stats store page = (.ok read, changed, events))
    (other : Store) (counts : Stats) :
    (∃ result reached told,
      pageOutcome planId now counts other page = (.ok result, reached, told) ∧
        ∀ last ∈ page.getLast?, result.lastId = read.lastId) ∨
      ∃ error reached told,
        pageOutcome planId now counts other page =
          (.error (.persistence error), reached, told) := by
  obtain ⟨hhandled, hcursor⟩ := pageOutcome_ok handled
  cases hpage : pageOutcome planId now counts other page with
  | mk result rest =>
  obtain ⟨reached, told⟩ := rest
  cases result with
  | ok result =>
    refine .inl ⟨result, reached, told, rfl, fun last hlast ↦ ?_⟩
    exact Option.some.inj (((pageOutcome_ok hpage).2 last hlast).symm.trans (hcursor last hlast))
  | error failure =>
    obtain ⟨hresult, -⟩ := Prod.mk.inj hpage
    obtain ⟨error, rfl⟩ := outcomes_failure planId now hhandled.numbered (Prod.ext hresult rfl)
    exact .inr ⟨error, reached, told, rfl⟩

/-- A run that succeeded on one store succeeds on another one too, with the same fetches, unless the
store refuses a credit. -/
theorem Paged.elsewhere {stats read : Stats} {store last : Store} {fetches : List Fetch}
    {events : List Event} (h : Paged planId now stats store fetches (.ok read) last events)
    (other : Store) {counts : Stats} (hid : counts.lastId = stats.lastId) :
    (∃ result reached told, Paged planId now counts other fetches (.ok result) reached told) ∨
      ∃ done rest error reached told, fetches = done ++ rest ∧
        Paged planId now counts other done (.error (.persistence error)) reached told := by
  generalize hresult : Except.ok read = result at h
  induction h generalizing other counts with
  | unanswered => cases hresult
  | unhandled => cases hresult
  | stuck => cases hresult
  | @short stats store page _ changed events handled size =>
    rw [← hid]
    rcases pageOutcome_elsewhere handled other counts with
      ⟨result, reached, told, hother, -⟩ | ⟨error, reached, told, hother⟩
    · exact .inl ⟨result, reached, told, .short hother size⟩
    · exact .inr ⟨_, [], error, reached, told, (List.append_nil _).symm, .unhandled hother⟩
  | @more stats store page next changed events fetches result last later handled size grows _ ih =>
    rw [← hid] at grows ⊢
    rcases pageOutcome_elsewhere handled other counts with
      ⟨middle, reached, told, hother, hcursor⟩ | ⟨error, reached, told, hother⟩
    · obtain ⟨record, hrecord⟩ := exists_getLast?_of_full size
      have hmiddle : middle.lastId = next.lastId := hcursor record hrecord
      rw [← hmiddle] at grows
      rcases ih reached hmiddle hresult with
        ⟨result, final, more, hrest⟩ | ⟨done, rest, error, final, more, rfl, hrest⟩
      · exact .inl ⟨result, final, _, .more hother size grows hrest⟩
      · exact .inr ⟨_ :: done, rest, error, final, _, rfl, .more hother size grows hrest⟩
    · exact .inr ⟨[_], fetches, error, reached, told, rfl, .unhandled hother⟩

/-- To run on another store over the pages of a run that succeeded is to fetch the same pages, or
the store refuses a credit. -/
theorem Paged.reconcileOver_cases {read : Stats} {store last : Store} {fetches : List Fetch}
    {events : List Event} {pages : List (List Entitlement)}
    (h : Paged planId now .start store fetches (.ok read) last events)
    (brought : fetches.map Fetch.answer = pages.map .ok) (other : Store) :
    (∃ result reached told, reconcileOver planId now pages other = (.ok result, reached) ∧
      Paged planId now .start other fetches (.ok result) reached told) ∨
      ∃ error reached,
        reconcileOver planId now pages other = (.error (.persistence error), reached) ∧
        ¬ AcceptsCredits other := by
  rcases h.elsewhere other rfl with
    ⟨result, reached, told, hother⟩ | ⟨done, rest, error, reached, told, rfl, hother⟩
  · exact .inl ⟨result, reached, told,
      hother.reconcileOver_eq (by rw [List.append_nil, brought]), hother⟩
  · rw [List.map_append] at brought
    refine .inr ⟨error, reached, hother.reconcileOver_eq brought.symm, fun haccepts ↦ ?_⟩
    obtain ⟨fetch, hfetch, hanswer⟩ := hother.mem_of_persistence haccepts rfl
    have hmem : fetch.answer ∈ pages.map .ok := by
      rw [← brought]
      exact List.mem_append_left _ (List.mem_map_of_mem hfetch)
    obtain ⟨page, -, hpage⟩ := List.mem_map.mp hmem
    cases hpage.trans hanswer

/-- Where credits are accepted the pages of a run that succeeded can be run over. -/
theorem Paged.exists_reconcileOver {read : Stats} {store last other : Store} {fetches : List Fetch}
    {events : List Event} {pages : List (List Entitlement)}
    (h : Paged planId now .start store fetches (.ok read) last events)
    (brought : fetches.map Fetch.answer = pages.map .ok) (accepts : AcceptsCredits other) :
    ∃ result reached, reconcileOver planId now pages other = (.ok result, reached) := by
  rcases h.reconcileOver_cases brought other with
    ⟨result, reached, _, hother, -⟩ | ⟨_, _, -, hrefuses⟩
  · exact ⟨result, reached, hother⟩
  · exact absurd accepts hrefuses

/-- A run that succeeds on another store over the pages of a run that succeeded fetches the same
pages. -/
theorem Paged.of_reconcileOver {read result : Stats} {store last other reached : Store}
    {fetches : List Fetch} {events : List Event} {pages : List (List Entitlement)}
    (h : Paged planId now .start store fetches (.ok read) last events)
    (brought : fetches.map Fetch.answer = pages.map .ok)
    (success : reconcileOver planId now pages other = (.ok result, reached)) :
    ∃ told, Paged planId now .start other fetches (.ok result) reached told := by
  rcases h.reconcileOver_cases brought other with
    ⟨_, _, told, hother, hpaged⟩ | ⟨_, _, hother, -⟩
  · obtain ⟨hresult, rfl⟩ := Prod.mk.inj (hother.symm.trans success)
    obtain rfl := Except.ok.inj hresult
    exact ⟨told, hpaged⟩
  · cases (Prod.mk.inj (hother.symm.trans success)).1

/-- A run that succeeds settles the purchases that it fetched. -/
theorem Paged.settled {read : Stats} {store last : Store} {fetches : List Fetch}
    {events : List Event} {before : List CreditRow} (migrated : store.credits = some before)
    (h : Paged planId now .start store fetches (.ok read) last events) :
    ∃ after, last = { store with credits := some after } ∧
      Settled planId now before (recordsOf fetches) read after := by
  obtain ⟨-, -, hall⟩ := h.outcomes_eq
  obtain ⟨after, hlast, hrows, hcounted⟩ := (Settled.start before).outcomes migrated hall
  exact ⟨after, hlast, hrows, hcounted.seen, hcounted.skipped, hcounted.subscriptions,
    hcounted.kept, hcounted.withoutId, hcounted.lastId⟩

namespace Settled

variable {before after rows : List CreditRow} {records : List Entitlement} {stats again : Stats}
  {id : String}

/-- The purchase that was met last decides for its subscription. -/
theorem isDecided (h : Settled planId now before records stats after) {last : Entitlement}
    (hlast : (purchasesOf records id).getLast? = some last) :
    IsDecided after id (if last.IsActiveAt now then 1 else 0) now.stored := by
  obtain ⟨added, rfl, hadded, -⟩ := h.rows
  refine ⟨?_, fun row hrow hid ↦ ?_⟩
  · obtain ⟨hmem, hearns⟩ := List.mem_filter.mp (List.mem_of_getLast? hlast)
    by_cases hold : id ∈ before.map CreditRow.subscriptionId
    · obtain ⟨row, hrow, rfl⟩ := List.mem_map.mp hold
      exact ⟨_, List.mem_append_left _ (List.mem_map_of_mem hrow), subscriptionId_refreshed ..⟩
    · have hnew := (hadded.mem_iff id).mpr ⟨⟨last, hmem, of_decide_eq_true hearns⟩, hold⟩
      obtain ⟨row, hrow, hid⟩ := List.mem_map.mp hnew
      exact ⟨row, List.mem_append_right _ hrow, hid⟩
  · rcases List.mem_append.mp hrow with hrow | hrow
    · obtain ⟨old, -, rfl⟩ := List.mem_map.mp hrow
      rw [subscriptionId_refreshed] at hid
      rw [refreshed, hid, hlast]
      exact ⟨rfl, rfl⟩
    · obtain ⟨first, met, -, hmet, heq⟩ := hadded.eq_addedRow row hrow
      rw [hid, hlast] at hmet
      obtain rfl := Option.some.inj hmet
      rw [heq]
      exact ⟨rfl, rfl⟩

/-- Rows that purchases have settled are as these purchases leave them. -/
theorem refreshed_eq (h : Settled planId now before records stats after) {row : CreditRow}
    (hrow : row ∈ after) : refreshed now records row = row := by
  unfold refreshed
  cases hlast : (purchasesOf records row.subscriptionId).getLast? with
  | none => rfl
  | some last =>
    obtain ⟨hactive, hdate⟩ := (h.isDecided hlast).2 row hrow rfl
    dsimp only
    rw [← hactive, ← hdate]

/-- Purchases that are settled change at most the activity and the date of a row. -/
theorem rowsStay (h : Settled planId now before records stats after) : RowsStay before after := by
  obtain ⟨added, rfl, -⟩ := h.rows
  refine .of_map (fun row ↦ ?_) before added
  unfold refreshed
  split
  · exact ⟨_, _, rfl⟩
  · exact ⟨row.active, row.updatedAt, rfl⟩

/-- Purchases that are settled once more change nothing. -/
theorem again_eq (h : Settled planId now before records stats after)
    (hagain : Settled planId now after records again rows) :
    rows = after ∧ again.inserted = 0 ∧ again.updated = stats.inserted + stats.updated := by
  obtain ⟨added, hrows, hadded, hinserted⟩ := hagain.rows
  have hnone : added = [] := by
    refine List.eq_nil_iff_forall_not_mem.mpr fun row hrow ↦ ?_
    obtain ⟨-, last, -, hlast, -⟩ := hadded.eq_addedRow row hrow
    obtain ⟨old, hold, hid⟩ := (h.isDecided hlast).1
    exact ((hadded.mem_iff _).mp (List.mem_map_of_mem hrow)).2 (hid ▸ List.mem_map_of_mem hold)
  have hstill : after.map (refreshed now records) = after := by
    conv_rhs => rw [← List.map_id after]
    exact List.map_congr_left fun row hrow ↦ h.refreshed_eq hrow
  rw [hnone, List.append_nil, hstill] at hrows
  rw [hnone, List.length_nil] at hinserted
  have hkept := hagain.counted.kept.trans h.counted.kept.symm
  rw [hinserted, Nat.zero_add] at hkept
  exact ⟨hrows, hinserted, hkept⟩

end Settled

end

/-- After any earlier runs, whether or not they failed, a run that succeeds gives each subscription
it meets the same activity and date of update as the run over the same pages gives it on the store
before all of them. Rows keep their places and all but their activity and date of update, both over
the earlier runs and over this one, and no other table has changed. To run over the same pages at
the same time once more changes nothing: what was inserted or updated is then updated. Here the
pages are those of the fetches that `Source.recorded` keeps during the run. -/
theorem reconcile_converges {σ : Type} (planId : String) (now : Instant) (source : Source σ)
    (earlier : List (PastRun σ)) (start final : Setting σ) (before : List CreditRow) (stats : Stats)
    (migrated : start.store.credits = some before)
    (success : (reconcile planId now source).run (aftermath earlier start) = (.ok stats, final)) :
    ∃ fetches pages middle after,
      (reconcile planId now source.recorded).run (watched (aftermath earlier start) []) =
        (.ok stats, watched final fetches) ∧
      fetches.map Fetch.answer = pages.map .ok ∧
      reconcileOver planId now pages (aftermath earlier start).store = (.ok stats, final.store) ∧
      (aftermath earlier start).store = { start.store with credits := some middle } ∧
      final.store = { start.store with credits := some after } ∧
      RowsStay before middle ∧ RowsStay middle after ∧
      Converged planId now pages start.store final.store after stats := by
  obtain ⟨middle, hmiddle, hstay⟩ := aftermath_store earlier migrated
  obtain ⟨fetches, events, hpaged, -, -, hkept⟩ :=
    exists_paged_reconcile planId now source (aftermath earlier start)
  rw [success] at hpaged
  obtain ⟨after, hafter, hsettled⟩ := hpaged.settled (congrArg Store.credits hmiddle)
  rw [hmiddle] at hafter
  have hbrought : fetches.map Fetch.answer = (fetches.map Fetch.records).map .ok := by
    rw [List.map_map]
    refine List.map_congr_left fun fetch hfetch ↦ ?_
    obtain ⟨page, hpage⟩ := hpaged.outcomes_eq.1 fetch hfetch
    rw [Function.comp_apply, Fetch.records, hpage]
  refine ⟨fetches, fetches.map Fetch.records, middle, after, by rw [hkept, success]; rfl, hbrought,
    hpaged.reconcileOver_eq (by rw [List.append_nil, hbrought]), hmiddle, hafter, hstay,
    hsettled.rowsStay, ?_, ?_, ?_⟩
  · intro haccepts
    have hfinal : AcceptsCredits final.store := by
      rw [hafter]
      exact ⟨rfl, haccepts.unlocked, haccepts.unguarded⟩
    exact ⟨hpaged.exists_reconcileOver hbrought haccepts,
      hpaged.exists_reconcileOver hbrought hfinal⟩
  · -- Both runs settle the same purchases, the last of which decides for its subscription.
    intro direct reached hdirect
    obtain ⟨told, hother⟩ := hpaged.of_reconcileOver hbrought hdirect
    obtain ⟨rows, hrows, hdirectly⟩ := hother.settled migrated
    refine ⟨rows, hrows, fun record hrecord id hearns ↦ ?_⟩
    have hne : purchasesOf (recordsOf fetches) id ≠ [] :=
      List.ne_nil_of_mem (List.mem_filter.mpr ⟨hrecord, decide_eq_true hearns⟩)
    have hlast := List.getLast?_eq_some_getLast hne
    exact ⟨_, hsettled.isDecided hlast, hdirectly.isDecided hlast⟩
  · intro again reached hagain
    obtain ⟨told, hother⟩ := hpaged.of_reconcileOver hbrought hagain
    obtain ⟨rows, hrows, hsettledAgain⟩ := hother.settled (congrArg Store.credits hafter)
    obtain ⟨rfl, hinserted, hupdated⟩ := hsettled.again_eq hsettledAgain
    exact ⟨by rw [hrows, hafter], hinserted, hupdated⟩

/-- A run that fails at its second purchase and one of another plan that succeeds. -/
def twoRuns : List (PastRun Unit) :=
  [⟨"silver", .epoch, answering brokenPage⟩, ⟨"gold", .epoch, answering mixedPage⟩]

/-- The known subscription was already met by the run that failed, and the new one, which is listed
as inactive and then as active, was added by the other run and keeps its plan. -/
theorem reconcile_converges_twoRuns :
    let start : Setting Unit := ⟨{ Store.empty with credits := some [knownRow] }, [], ()⟩
    let stats : Stats := ⟨1, 5, 4, 1, 0, 3, 1, 15⟩
    let run := (reconcile "plan" midJanuary (answering mixedPage)).run (aftermath twoRuns start)
    let newRow : CreditRow :=
      ⟨some "bob", "new", none, 0, Instant.epoch.stored, "gold", 0, none, Instant.epoch.stored⟩
    AcceptsCredits start.store ∧ run = (.ok stats, run.2) ∧
      (aftermath twoRuns start).store.credits =
        some [{ knownRow with active := 0, updatedAt := Instant.epoch.stored }, newRow] ∧
      run.2.store.credits =
        some [{ knownRow with active := 0, updatedAt := midJanuary.stored },
          { newRow with active := 1, updatedAt := midJanuary.stored }] ∧
      ∃ fetches pages middle after,
        (reconcile "plan" midJanuary (answering mixedPage).recorded).run
            (watched (aftermath twoRuns start) []) = (.ok stats, watched run.2 fetches) ∧
        fetches.map Fetch.answer = pages.map .ok ∧
        reconcileOver "plan" midJanuary pages (aftermath twoRuns start).store =
          (.ok stats, run.2.store) ∧
        (aftermath twoRuns start).store = { start.store with credits := some middle } ∧
        run.2.store = { start.store with credits := some after } ∧
        RowsStay [knownRow] middle ∧ RowsStay middle after ∧
        Converged "plan" midJanuary pages start.store run.2.store after stats := by
  intro start stats run newRow
  have hpast : aftermath twoRuns start =
      ((reconcile "gold" .epoch (answering mixedPage)).run
        ((reconcile "silver" .epoch (answering brokenPage)).run start).2).2 := rfl
  rw [run_reconcile "silver", run_pages "silver", run_reconcile "gold", run_pages "gold"] at hpast
  have hrun : run = _ := run_reconcile "plan" midJanuary (answering mixedPage) _
  rw [run_pages, hpast] at hrun
  have hresult : run.1 = .ok stats := by
    rw [hrun]
    decide +kernel
  refine ⟨⟨rfl, rfl, fun change subscription ↦ rfl⟩, Prod.ext hresult rfl, ?_, ?_,
    reconcile_converges "plan" midJanuary (answering mixedPage) twoRuns start run.2 [knownRow] stats
      rfl (Prod.ext hresult rfl)⟩
  · rw [hpast]
    decide +kernel
  · rw [hrun]
    decide +kernel

end BotOps.Billing
