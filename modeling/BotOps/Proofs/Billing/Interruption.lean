import BotOps.Proofs.Billing.Page
import BotOps.Proofs.Billing.Stopping

/-!
# What an interrupted reconciliation leaves behind

A run may fail at a fetch, at a purchase or for want of progress. The credits of the purchases
before that are in the store, each as if it alone had been put there, and nothing else has changed:
`reconcile_leaves_prefix`. Which purchases these are depends on how the run failed: `FailsBehind`.
-/

namespace BotOps.Billing

open BotOps.Json BotOps.Remote BotOps.Store BotOps.Time

section

variable (planId : String) (now : Instant)

/-- The credits that purchases earn, in order. -/
def creditsOf (records : List Entitlement) : List Credit :=
  records.filterMap (Entitlement.credit? planId now)

/-- A run fails with a fetch behind the first purchases of its page, and leaves a store. -/
inductive FailsBehind (last : Store) (fetch : Fetch) : List Entitlement → Failure → Prop where
  /-- The page does not come. -/
  | unanswered {failure} (answer : fetch.answer = .error failure) :
      FailsBehind last fetch [] failure
  /-- The purchase behind the others has an identifier that is no number, unlike theirs, or earns a
  credit that the store does not accept. -/
  | refused {done record rest failure} (answer : fetch.answer = .ok (done ++ record :: rest))
      (numbered : ∀ earlier ∈ done, (cursor? earlier.id).isSome)
      (refused : Refused planId now last record failure) : FailsBehind last fetch done failure
  /-- The page is full and ends no later than it begins. -/
  | still {page record id} (answer : fetch.answer = .ok page)
      (numbered : ∀ earlier ∈ page, (cursor? earlier.id).isSome) (size : pageSize ≤ page.length)
      (final : page.getLast? = some record) (number : cursor? record.id = some id)
      (behind : id ≤ fetch.after) :
      FailsBehind last fetch page (.service (.noProgress fetch.after))

end

section

variable {planId : String} {now : Instant}

namespace Handled

variable {store last : Store} {records : List Entitlement}

/-- Purchases that are handled have numbers as identifiers. -/
theorem numbered (h : Handled planId now store records last) :
    ∀ record ∈ records, (cursor? record.id).isSome := by
  induction h with
  | nil => simp
  | skip number _ _ ih => exact List.forall_mem_cons.mpr ⟨number, ih⟩
  | keep number _ _ _ ih => exact List.forall_mem_cons.mpr ⟨number, ih⟩

/-- Handling purchases puts their credits into the store in turn. -/
theorem run_upsertCredits (h : Handled planId now store records last) :
    (upsertCredits (creditsOf planId now records) now.stored).run store = (.ok (), last) := by
  induction h with
  | nil => rfl
  | skip _ idle _ ih => rwa [creditsOf, List.filterMap_cons_none idle]
  | keep _ earned kept _ ih =>
    rw [creditsOf, List.filterMap_cons_some earned, run_upsertCredits_cons, kept]
    exact ih

end Handled

/-- Each fetch but the last one leads to another and brought a page. -/
theorem exists_page_of_isChain {front : List Fetch} {last : Fetch}
    (h : (front ++ [last]).IsChain Fetch.LeadsTo) :
    ∀ fetch ∈ front, ∃ page, fetch.answer = .ok page := by
  induction front with
  | nil => simp
  | cons fetch front ih =>
    obtain ⟨next, rest, hnext⟩ : ∃ next rest, front ++ [last] = next :: rest := by
      cases front with
      | nil => exact ⟨_, _, rfl⟩
      | cons next front => exact ⟨_, _, rfl⟩
    rw [List.cons_append, hnext, List.isChain_cons_cons] at h
    obtain ⟨⟨page, _, answer, -⟩, hrest⟩ := h
    exact List.forall_mem_cons.mpr ⟨⟨page, answer⟩, ih (hnext ▸ hrest)⟩

/-- A run that fails with a fetch has handled the purchases before the failure. -/
theorem Ends.failsBehind {store last : Store} {fetch : Fetch} {failure : Failure}
    (h : Ends planId now store fetch (.error failure) last) :
    ∃ done, Handled planId now store done last ∧
      FailsBehind planId now last fetch done failure := by
  generalize hresult : Except.error failure = result at h
  cases h with
  | unanswered answer =>
    obtain rfl := Except.error.inj hresult
    exact ⟨[], .nil _, .unanswered answer⟩
  | refused answer handled refused =>
    obtain rfl := Except.error.inj hresult
    exact ⟨_, handled, .refused answer handled.numbered refused⟩
  | short => cases hresult
  | still answer handled size final number behind =>
    obtain rfl := Except.error.inj hresult
    exact ⟨_, handled, .still answer handled.numbered size final number behind⟩

/-- However a run ends with a fetch, it has handled some purchases. -/
theorem Ends.exists_handled {store last : Store} {fetch : Fetch} {result : Except Failure Stats}
    (h : Ends planId now store fetch result last) : ∃ done, Handled planId now store done last := by
  cases h with
  | unanswered => exact ⟨[], .nil _⟩
  | refused _ handled => exact ⟨_, handled⟩
  | short _ handled => exact ⟨_, handled⟩
  | still _ handled => exact ⟨_, handled⟩

/-- Whether or not a run fails, it has put the credits of some purchases into the store. -/
theorem Paged.exists_upsertCredits {stats : Stats} {store last : Store} {fetches : List Fetch}
    {result : Except Failure Stats} {events : List Event}
    (h : Paged planId now stats store fetches result last events) :
    ∃ records,
      (upsertCredits (creditsOf planId now records) now.stored).run store = (.ok (), last) := by
  obtain ⟨front, _, _, -, hfront, hends⟩ := h.ends
  obtain ⟨done, hdone⟩ := hends.exists_handled
  exact ⟨recordsOf front ++ done, (hfront.append hdone).run_upsertCredits⟩

end

/-- A reconciliation that fails has put the credits of a prefix of the fetched purchases into the
store, in turn: all those of the earlier pages, and those of the last fetch that `FailsBehind`
names. The rows of the credits are what these upserts make of them and nothing else has changed. To
the platform's client a body with an entitlement that cannot be read is a fetch that fails. Here the
fetches are those that `Source.recorded` keeps during the run. -/
theorem reconcile_leaves_prefix {σ : Type} (planId : String) (now : Instant) (source : Source σ)
    (setting final : Setting σ) (before : List CreditRow) (failure : Failure)
    (migrated : setting.store.credits = some before)
    (failed : (reconcile planId now source).run setting = (.error failure, final)) :
    (∃ front last done,
      (reconcile planId now source.recorded).run (watched setting []) =
        (.error failure, watched final (front ++ [last])) ∧
      (∀ fetch ∈ front, ∃ page, fetch.answer = .ok page) ∧
      FailsBehind planId now final.store last done failure ∧
      (upsertCredits (creditsOf planId now (recordsOf front ++ done)) now.stored).run
        setting.store = (.ok (), final.store) ∧
      final.store = { setting.store with
        credits := some
          (putCredits before (creditsOf planId now (recordsOf front ++ done)) now.stored) }) ∧
    ∀ (client : Client) (after : UInt64) (server reached : Exchange) (answer : Answer),
      (client.authorizedGet (client.entitlementsUrl after)).run server = (.ok answer, reached) →
      IsMalformed answer.text →
      (client.fetchPage after).run server = (.error (.service .malformedPage), reached) := by
  refine ⟨?_, fun client after server reached answer answered malformed ↦
    run_fetchPage_of_isMalformed answered malformed⟩
  obtain ⟨fetches, events, hpaged, -, -, hkept⟩ :=
    exists_paged_reconcile planId now source setting
  rw [failed] at hpaged
  obtain ⟨-, -, hchain⟩ := hpaged.cursors
  obtain ⟨front, last, middle, rfl, hfront, hends⟩ := hpaged.ends
  obtain ⟨done, hdone, hfails⟩ := hends.failsBehind
  have hputs := (hfront.append hdone).run_upsertCredits
  refine ⟨front, last, done, ?_, exists_page_of_isChain hchain, hfails, hputs,
    run_upsertCredits_ok migrated hputs⟩
  rw [hkept [], failed, List.nil_append]

/-- A full page, the last purchase on which is a subscription. -/
def firstPage : List Entitlement :=
  (List.range 100).map fun k ↦
    ⟨toString (k + 1), some "ann", none, some "plan", if k = 99 then 8 else 1, none, none⟩

/-- A page with a purchase whose identifier is no number between two subscriptions. -/
def brokenPage : List Entitlement :=
  [⟨"101", some "bob", none, some "known", 6, none, none⟩,
    ⟨"1o2", some "cat", none, some "broken", 8, none, none⟩,
    ⟨"103", some "dan", none, some "late", 8, none, none⟩]

/-- A source that answers with the full page first. -/
def breaking : Source Unit :=
  fun after ↦ pure (.ok (if after = 0 then firstPage else brokenPage))

/-- A row that is active. -/
def activeRow : CreditRow :=
  ⟨some "eve", "known", none, 1, "2023-01-01T00:00:00Z", "gold", 0, none, "2023-01-01T00:00:00Z"⟩

/-- A platform that can be reached. -/
def reachable : Client := ⟨"http://platform", "1", some "secret"⟩

/-- A page with a good entitlement and one that has no type. -/
def halfPage : String := "[\x7b\"id\":\"7\",\"type\":8\x7d,\x7b\"id\":\"8\"\x7d]"

/-- The server of the platform with this page as its one answer. -/
def halfServer : Exchange := ⟨⟨false, .named "platform", 80⟩, [⟨200, halfPage, 0⟩], []⟩

/-- The run meets the subscription of the first page, which is new, and the one before the broken
identifier, which is known, but not the one behind it. The page with half an entitlement does not
come. -/
theorem reconcile_leaves_prefix_brokenPage :
    let setting : Setting Unit := ⟨{ Store.empty with credits := some [activeRow] }, [], ()⟩
    let run := (reconcile "plan" .epoch breaking).run setting
    let failure : Failure := .service (.badIdentifier "1o2")
    setting.store.credits = some [activeRow] ∧ run = (.error failure, run.2) ∧
    run.2.store.credits =
      some [{ activeRow with active := 0, updatedAt := Instant.epoch.stored },
        ⟨some "ann", "plan", none, 0, Instant.epoch.stored, "plan", 0, none,
          Instant.epoch.stored⟩] ∧
    (∃ front last done,
      (reconcile "plan" .epoch breaking.recorded).run (watched setting []) =
        (.error failure, watched run.2 (front ++ [last])) ∧
      (∀ fetch ∈ front, ∃ page, fetch.answer = .ok page) ∧
      FailsBehind "plan" .epoch run.2.store last done failure ∧
      (upsertCredits (creditsOf "plan" .epoch (recordsOf front ++ done)) Instant.epoch.stored).run
        setting.store = (.ok (), run.2.store) ∧
      run.2.store = { setting.store with
        credits := some (putCredits [activeRow]
          (creditsOf "plan" .epoch (recordsOf front ++ done)) Instant.epoch.stored) }) ∧
    ((reachable.fetchPage 0).run halfServer).1 = .error (.service .malformedPage) := by
  intro setting run failure
  have hfirst : (pageOutcome "plan" .epoch .start setting.store firstPage).1 =
      .ok ⟨1, 100, 1, 99, 1, 0, 0, 100⟩ := by decide +kernel
  have hpage : pageOutcome "plan" .epoch .start setting.store firstPage =
      (.ok ⟨1, 100, 1, 99, 1, 0, 0, 100⟩,
        (pageOutcome "plan" .epoch .start setting.store firstPage).2) := Prod.ext hfirst rfl
  have hanswer : (breaking Stats.start.lastId).run setting.outside = (.ok firstPage, ()) := rfl
  have hrun : run = _ := run_reconcile "plan" .epoch breaking setting
  rw [run_pages_more "plan" .epoch breaking hanswer hpage (by decide +kernel) (by decide),
    run_pages] at hrun
  have hfailed : run.1 = .error failure := by
    rw [hrun]
    decide +kernel
  obtain ⟨hleft, hclient⟩ := reconcile_leaves_prefix "plan" .epoch breaking setting run.2
    [activeRow] failure rfl (Prod.ext hfailed rfl)
  refine ⟨rfl, Prod.ext hfailed rfl, ?_, hleft, ?_⟩
  · rw [hrun]
    decide +kernel
  · have hanswered : ((reachable.authorizedGet (reachable.entitlementsUrl 0)).run halfServer).1 =
        .ok ⟨200, halfPage, 0⟩ := by decide +kernel
    have hmalformed : IsMalformed (Answer.mk 200 halfPage 0).text :=
      decodePage?_eq_none_iff.mp (by decide +kernel)
    rw [hclient reachable 0 halfServer _ _ (Prod.ext hanswered rfl) hmalformed]

end BotOps.Billing
