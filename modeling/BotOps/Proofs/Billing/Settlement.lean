import BotOps.Proofs.Billing.CreditRows
import BotOps.Proofs.Billing.Paging

/-!
# What a reconciliation leaves behind

After a successful run the table of credits has its old rows, each as the purchases that were met
leave it, and one new row for each subscription that had none. Nothing else in the store is changed,
and the statistics tell how many purchases went which way: `Settled`.
-/

namespace BotOps.Billing

open BotOps.Store BotOps.Time

/-- How some purchases are counted. -/
structure Counted (records : List Entitlement) (stats : Stats) : Prop where
  seen : stats.seen = records.length
  skipped : stats.skipped = records.countP fun record ↦ !record.isSubscription
  subscriptions : stats.skipped + stats.subscriptions = stats.seen
  kept : stats.inserted + stats.updated = records.countP fun record ↦ record.earns.isSome
  withoutId : stats.inserted + stats.updated + stats.withoutId = stats.subscriptions
  lastId : stats.lastId = (records.getLast?.bind fun record ↦ cursor? record.id).getD 0

/-- What some purchases make of a table and how they are counted. -/
structure Settled (planId : String) (now : Instant) (before : List CreditRow)
    (records : List Entitlement) (stats : Stats) (after : List CreditRow) : Prop where
  rows : ∃ added, after = before.map (refreshed now records) ++ added ∧
    Added planId now before records added ∧ stats.inserted = added.length
  counted : Counted records stats

section

variable {planId : String} {now : Instant} {before rows : List CreditRow}
  {records : List Entitlement} {record : Entitlement}

/-- A purchase that is handled puts its credit among the rows and is counted. -/
theorem outcome_ok {stats read : Stats} {store changed : Store} (hrows : store.credits = some rows)
    (h : outcome planId now stats store record = (.ok read, changed)) :
    ∃ cursor, cursor? record.id = some cursor ∧
      read = stats.noted record cursor (record.earns.map (upsertOf rows)) ∧
        changed = { store with credits := some (kept planId now record rows) } := by
  unfold outcome at h
  cases hcursor : cursor? record.id with
  | none => simp [hcursor] at h
  | some cursor =>
    refine ⟨cursor, rfl, ?_⟩
    simp only [hcursor, Entitlement.credit?] at h
    unfold kept Entitlement.credit?
    cases hearns : record.earns with
    | none =>
      simp only [hearns, Option.map_none, Prod.mk.injEq, Except.ok.injEq] at h ⊢
      obtain ⟨rfl, rfl⟩ := h
      exact ⟨rfl, by rw [← hrows]⟩
    | some id =>
      simp only [hearns, Option.map_some, run_upsertCredit, hrows] at h ⊢
      cases hrefusal : store.refusal? (changeOf rows id) .credits (some id) true none with
      | some error => simp [newCredit, hrefusal] at h
      | none =>
        simp only [newCredit, hrefusal, Prod.mk.injEq, Except.ok.injEq] at h ⊢
        exact ⟨h.1.symm, h.2.symm⟩

/-- Nothing was met yet. -/
theorem Settled.start (before : List CreditRow) :
    Settled planId now before [] .start before where
  rows := ⟨[], by simp [show refreshed now [] = id from rfl], ⟨by simp, by simp, by simp⟩, rfl⟩
  counted := ⟨rfl, rfl, rfl, rfl, rfl, rfl⟩

/-- One more purchase is counted according to its kind and to what became of its credit. -/
theorem Counted.snoc {stats : Stats} {cursor : UInt64} (h : Counted records stats)
    (hcursor : cursor? record.id = some cursor) (rows : List CreditRow) :
    Counted (records ++ [record])
      (stats.noted record cursor (record.earns.map (upsertOf rows))) := by
  have hseen := h.seen
  have hskipped := h.skipped
  have hsubscriptions := h.subscriptions
  have hkept := h.kept
  have hwithoutId := h.withoutId
  have hlast : cursor =
      ((records ++ [record]).getLast?.bind fun record ↦ cursor? record.id).getD 0 := by
    rw [List.getLast?_concat, Option.bind_some, hcursor, Option.getD_some]
  unfold Stats.noted
  cases hkind : record.isSubscription with
  | false =>
    have hearns : record.earns = none := by simp [Entitlement.earns, hkind]
    refine ⟨?_, ?_, ?_, ?_, ?_, hlast⟩ <;> simp [hkind, hearns] <;> omega
  | true =>
    cases hearns : record.earns with
    | none =>
      refine ⟨?_, ?_, ?_, ?_, ?_, hlast⟩ <;> simp [hkind, hearns] <;> omega
    | some id =>
      rw [Option.map_some]
      cases upsertOf rows id with
      | inserted =>
        refine ⟨?_, ?_, ?_, ?_, ?_, hlast⟩ <;> simp [hkind, hearns, Stats.count] <;> omega
      | updated =>
        refine ⟨?_, ?_, ?_, ?_, ?_, hlast⟩ <;> simp [hkind, hearns, Stats.count] <;> omega

/-- Only a credit that is new is counted as inserted. -/
theorem inserted_noted (stats : Stats) (cursor : UInt64) (rows : List CreditRow) :
    (stats.noted record cursor (record.earns.map (upsertOf rows))).inserted =
      stats.inserted +
        if record.earns.any fun id ↦ id ∉ rows.map CreditRow.subscriptionId then 1 else 0 := by
  unfold Stats.noted
  cases hkind : record.isSubscription with
  | false => simp [Entitlement.earns, hkind]
  | true =>
    cases record.earns with
    | none => rfl
    | some id =>
      rw [Option.map_some, upsertOf]
      by_cases hknown : hasCredit rows id = true
      · rw [if_pos hknown]
        simp only [Option.any_some, hasCredit_iff.mp hknown, not_true_eq_false, decide_false,
          Bool.false_eq_true, if_false]
        rfl
      · have hnew : id ∉ rows.map CreditRow.subscriptionId := fun h ↦ hknown (hasCredit_iff.mpr h)
        rw [if_neg hknown]
        simp only [Option.any_some, hnew, not_false_eq_true, decide_true, if_true]
        rfl

/-- One more purchase is met. -/
theorem Settled.snoc {stats : Stats} {cursor : UInt64}
    (h : Settled planId now before records stats rows) (hcursor : cursor? record.id = some cursor) :
    Settled planId now before (records ++ [record])
      (stats.noted record cursor (record.earns.map (upsertOf rows)))
      (kept planId now record rows) := by
  refine ⟨?_, h.counted.snoc hcursor rows⟩
  obtain ⟨added, hrows, hadded, hinserted⟩ := h.rows
  have hids : rows.map CreditRow.subscriptionId =
      before.map CreditRow.subscriptionId ++ added.map CreditRow.subscriptionId := by
    rw [hrows, List.map_append, List.map_map]
    congr 1
    exact List.map_congr_left fun row _ ↦ subscriptionId_refreshed records row
  have hbefore : before.map (refreshed now (records ++ [record])) =
      (before.map (refreshed now records)).map (touched now record) := by
    rw [List.map_map]
    exact List.map_congr_left fun row _ ↦ refreshed_append records record row
  rw [inserted_noted, hinserted, hbefore]
  by_cases hnew : record.earns.any fun id ↦ id ∉ rows.map CreditRow.subscriptionId
  · rw [if_pos hnew]
    obtain ⟨id, hearns, hid⟩ := (Option.any_eq_true _ _).mp hnew
    have hid := of_decide_eq_true hid
    obtain ⟨hnotBefore, hnotAdded⟩ : id ∉ before.map CreditRow.subscriptionId ∧
        id ∉ added.map CreditRow.subscriptionId := by
      rw [hids, List.mem_append, not_or] at hid
      exact hid
    refine ⟨added ++ [addedRow planId now id record record], ?_,
      hadded.snoc hearns hnotBefore hnotAdded, by simp⟩
    -- No row that was there is that of the purchase.
    have hstill : (before.map (refreshed now records)).map (touched now record) =
        before.map (refreshed now records) := by
      conv_rhs => rw [← List.map_id (before.map (refreshed now records))]
      refine List.map_congr_left fun row hrow ↦ if_neg fun hrowEarns ↦ hid ?_
      rw [Option.some.inj (hearns.symm.trans hrowEarns), hrows]
      exact List.mem_map_of_mem (List.mem_append_left _ hrow)
    rw [hstill, kept_new hearns hid, hrows, List.append_assoc]
  · rw [if_neg hnew, Nat.add_zero]
    have hknown : ∀ id, record.earns = some id → id ∈ rows.map CreditRow.subscriptionId := by
      intro id hearns
      simpa [hearns] using hnew
    refine ⟨added.map (touched now record), ?_, hadded.touch fun id hearns ↦ ?_, by simp⟩
    · rw [kept_known hknown, hrows, List.map_append]
    · rw [← List.mem_append, ← hids]
      exact hknown id hearns

/-- Handling purchases meets one after the other and changes nothing but the credits. -/
theorem Settled.outcomes {stats read : Stats} {store last : Store} {page : List Entitlement}
    {events : List Event} (h : Settled planId now before records stats rows)
    (hrows : store.credits = some rows)
    (hpage : BotOps.Billing.outcomes planId now stats store page = (.ok read, last, events)) :
    ∃ after, last = { store with credits := some after } ∧
      Settled planId now before (records ++ page) read after := by
  induction page generalizing stats store rows records events with
  | nil =>
    obtain ⟨rfl, rfl, -⟩ : stats = read ∧ store = last ∧ ([] : List Event) = events := by
      simpa [BotOps.Billing.outcomes] using hpage
    exact ⟨rows, by rw [← hrows], by rwa [List.append_nil]⟩
  | cons record page ih =>
    obtain ⟨next, changed, later, hrecord, hrest, -⟩ := outcomes_cons_ok planId now hpage
    obtain ⟨cursor, hcursor, rfl, rfl⟩ := outcome_ok hrows hrecord
    obtain ⟨after, hafter, hsettled⟩ := ih (h.snoc hcursor) rfl hrest
    exact ⟨after, hafter, by rwa [List.append_assoc] at hsettled⟩

end

/-- A successful reconciliation settles all purchases that it fetched. It fetched them in pages
none of which failed, it counts the pages, and it changes nothing but the credits. Here the fetches
are those that `Source.recorded` keeps during the run. -/
theorem reconcile_settles {σ : Type} (planId : String) (now : Instant) (source : Source σ)
    (setting final : Setting σ) (before : List CreditRow) (stats : Stats)
    (migrated : setting.store.credits = some before)
    (success : (reconcile planId now source).run setting = (.ok stats, final)) :
    ∃ fetches after,
      (reconcile planId now source.recorded).run (watched setting []) =
        (.ok stats, watched final fetches) ∧
      (∀ fetch ∈ fetches, ∃ page, fetch.answer = .ok page) ∧
      stats.pages = fetches.length ∧
      final.store = { setting.store with credits := some after } ∧
      Settled planId now before (recordsOf fetches) stats after := by
  obtain ⟨fetches, events, hpaged, -, -, hkept⟩ :=
    exists_paged_reconcile planId now source setting
  rw [success] at hpaged
  obtain ⟨hanswers, hpages, hall⟩ := hpaged.outcomes_eq
  obtain ⟨after, hstore, hrows, hcounted⟩ := (Settled.start before).outcomes migrated hall
  refine ⟨fetches, after, ?_, hanswers, ?_, hstore, hrows, ?_⟩
  · rw [hkept, success]
    rfl
  · simpa [Stats.start] using hpages
  · exact ⟨hcounted.seen, hcounted.skipped, hcounted.subscriptions, hcounted.kept,
      hcounted.withoutId, hcounted.lastId⟩

/-- A source that answers every cursor with one page. -/
def answering (page : List Entitlement) : Source Unit := fun _ ↦ pure (.ok page)

/-- A short page: a known subscription, a new one that is met twice, a purchase of another kind and
a subscription with a blank name. -/
def mixedPage : List Entitlement :=
  [⟨"11", some "ann", none, some "known", 8, some "2024-01-01T00:00:00Z", none⟩,
    ⟨"12", some "bob", none, some "new", 6, none, none⟩,
    ⟨"13", some "cat", some "guild", some "new", 8, some "2024-01-01T00:00:00Z",
      some "2024-02-01T00:00:00+00:00"⟩,
    ⟨"14", some "dan", none, some "other", 1, none, none⟩,
    ⟨"15", none, none, some " ", 6, none, none⟩]

/-- The start of 2024-01-15. -/
def midJanuary : Instant := ⟨1705276800, 0, by decide⟩

/-- A row that was active and whose payment had failed. -/
def knownRow : CreditRow :=
  ⟨some "eve", "known", none, 1, "2023-01-01T00:00:00", "gold", 1, none, "2023-01-01T00:00:00"⟩

/-- The known row is no longer active, and the new row belongs to the user met first but is active
as the purchase met last says. -/
theorem reconcile_settles_mixedPage :
    let setting : Setting Unit := ⟨{ Store.empty with credits := some [knownRow] }, [], ()⟩
    let stats : Stats := ⟨1, 5, 4, 1, 1, 2, 1, 15⟩
    let final := ((reconcile "plan" midJanuary (answering mixedPage)).run setting).2
    final.store.credits =
        some [{ knownRow with active := 0, updatedAt := midJanuary.stored },
          ⟨some "bob", "new", none, 1, midJanuary.stored, "plan", 0, none, midJanuary.stored⟩] ∧
      ∃ fetches after,
        (reconcile "plan" midJanuary (answering mixedPage).recorded).run (watched setting []) =
          (.ok stats, watched final fetches) ∧
        (∀ fetch ∈ fetches, ∃ page, fetch.answer = .ok page) ∧
        stats.pages = fetches.length ∧
        final.store = { setting.store with credits := some after } ∧
        Settled "plan" midJanuary [knownRow] (recordsOf fetches) stats after := by
  intro setting stats final
  have hrun : ((reconcile "plan" midJanuary (answering mixedPage)).run setting).1 = .ok stats ∧
      final.store.credits =
        some [{ knownRow with active := 0, updatedAt := midJanuary.stored },
          ⟨some "bob", "new", none, 1, midJanuary.stored, "plan", 0, none, midJanuary.stored⟩] := by
    unfold final
    rw [run_reconcile, run_pages]
    decide +kernel
  exact ⟨hrun.2, reconcile_settles "plan" midJanuary (answering mixedPage) setting final [knownRow]
    stats rfl (Prod.ext hrun.1 rfl)⟩

end BotOps.Billing
