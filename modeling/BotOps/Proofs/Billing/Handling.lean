import BotOps.Billing.Reconcile
import BotOps.Proofs.Store.Credits

/-!
# Handling entitlements

Handling an entitlement asks nothing of the world outside, and what it does depends on the store and
on nothing that was reported before. `outcome` tells without any monad what becomes of the
statistics and of the store, `Entitlement.told` what is reported; `run_handle` and
`run_foldlM_handle` say that these are all that handling does.
-/

namespace BotOps.Billing

open BotOps.Store BotOps.Time

/-- The warning about a bound that is there and cannot be read. -/
def warnings (field : String) (raw : Option String) : List Event :=
  match raw with
  | none => []
  | some value => if (Instant.parse? value).isNone then [.badTimestamp field value] else []

/-- A bound that is read, and the warning about one that cannot be. -/
theorem readBound_eq (field : String) (raw : Option String) :
    readBound field raw = (raw.bind Instant.parse?, warnings field raw) := by
  unfold readBound warnings
  cases raw with
  | none => rfl
  | some value => cases h : Instant.parse? value <;> simp [h]

section

variable (planId : String) (now : Instant)

namespace Entitlement

/-- The activity of a purchase, as far as the bounds of its validity can be read. -/
def activityAt (entitlement : Entitlement) : Activity :=
  .of now (readBound "starts_at" entitlement.startsAt).1 (readBound "ends_at" entitlement.endsAt).1

/-- The subscription for which a purchase earns a credit: none unless its kind is that of a
subscription and the name is usable. -/
def earns (entitlement : Entitlement) : Option String :=
  if entitlement.isSubscription then entitlement.subscription? else none

/-- The credit that a purchase earns. -/
def credit? (entitlement : Entitlement) : Option Credit :=
  entitlement.earns.map fun subscriptionId ↦
    newCredit planId now entitlement subscriptionId (entitlement.activityAt now)

/-- What is reported about a subscription, in order. -/
def reports (entitlement : Entitlement) : List Event :=
  let (start, startEvents) := readBound "starts_at" entitlement.startsAt
  let (stop, stopEvents) := readBound "ends_at" entitlement.endsAt
  startEvents ++ stopEvents ++ [.subscription entitlement (entitlement.activityAt now) start stop]

/-- What is reported while a purchase is handled: nothing if its identifier is no number or it is no
subscription. -/
def told (entitlement : Entitlement) : List Event :=
  if (cursor? entitlement.id).isSome ∧ entitlement.isSubscription then entitlement.reports now
  else []

end Entitlement

/-- The statistics after a purchase with a given number, of whose credit `upsert` became. -/
def Stats.noted (stats : Stats) (entitlement : Entitlement) (id : UInt64)
    (upsert : Option Upsert) : Stats :=
  let stats := { stats with lastId := id, seen := stats.seen + 1 }
  if entitlement.isSubscription then
    let stats := { stats with subscriptions := stats.subscriptions + 1 }
    match upsert with
    | some upsert => stats.count upsert
    | none => { stats with withoutId := stats.withoutId + 1 }
  else { stats with skipped := stats.skipped + 1 }

/-- What becomes of the statistics and the store when a purchase is handled. -/
def outcome (stats : Stats) (store : Store) (entitlement : Entitlement) :
    Except Failure Stats × Store :=
  match cursor? entitlement.id with
  | none => (.error (.service (.badIdentifier entitlement.id)), store)
  | some id =>
    match entitlement.credit? planId now with
    | none => (.ok (stats.noted entitlement id none), store)
    | some credit =>
      match (upsertCredit credit now.stored).run store with
      | (.ok upsert, changed) => (.ok (stats.noted entitlement id (some upsert)), changed)
      | (.error error, changed) => (.error (.persistence error), changed)

/-- What becomes of the statistics and the store when purchases are handled in turn, and what is
reported meanwhile, in order. -/
def outcomes (stats : Stats) (store : Store) :
    List Entitlement → Except Failure Stats × Store × List Event
  | [] => (.ok stats, store, [])
  | entitlement :: rest =>
    match outcome planId now stats store entitlement with
    | (.ok stats, store) =>
      let (result, store, events) := outcomes stats store rest
      (result, store, entitlement.told now ++ events)
    | (.error failure, store) => (.error failure, store, entitlement.told now)

/-- The number of pages plays no part in handling a purchase. -/
theorem outcome_pages (stats : Stats) (store : Store) (entitlement : Entitlement) (n : Nat) :
    outcome planId now { stats with pages := n } store entitlement =
      ((outcome planId now stats store entitlement).1.map ({ · with pages := n }),
        (outcome planId now stats store entitlement).2) := by
  have hnoted (id : UInt64) (upsert : Option Upsert) :
      Stats.noted { stats with pages := n } entitlement id upsert =
        { stats.noted entitlement id upsert with pages := n } := by
    unfold Stats.noted
    split
    · rcases upsert with - | - | - <;> rfl
    · rfl
  unfold outcome
  cases cursor? entitlement.id with
  | none => rfl
  | some id =>
    dsimp only
    cases entitlement.credit? planId now with
    | none => simp [hnoted, Except.map]
    | some credit =>
      dsimp only
      rcases (upsertCredit credit now.stored).run store with ⟨error | upsert, changed⟩
      · rfl
      · simp [hnoted, Except.map]

/-- The number of pages plays no part in handling purchases. -/
theorem outcomes_pages (stats : Stats) (store : Store) (page : List Entitlement) (n : Nat) :
    outcomes planId now { stats with pages := n } store page =
      ((outcomes planId now stats store page).1.map ({ · with pages := n }),
        (outcomes planId now stats store page).2) := by
  induction page generalizing stats store with
  | nil => rfl
  | cons entitlement page ih =>
    rw [outcomes, outcomes, outcome_pages]
    rcases outcome planId now stats store entitlement with ⟨failure | next, changed⟩
    · rfl
    · simp only [Except.map]
      rw [ih]
      rfl

/-- The cursor is that of the purchase. -/
@[simp] theorem Stats.lastId_noted (stats : Stats) (entitlement : Entitlement) (id : UInt64)
    (upsert : Option Upsert) : (stats.noted entitlement id upsert).lastId = id := by
  unfold noted
  split
  · rcases upsert with - | - | - <;> rfl
  · rfl

/-- Every purchase is counted, whatever its kind. -/
@[simp] theorem Stats.seen_noted (stats : Stats) (entitlement : Entitlement) (id : UInt64)
    (upsert : Option Upsert) : (stats.noted entitlement id upsert).seen = stats.seen + 1 := by
  unfold noted
  split
  · rcases upsert with - | - | - <;> rfl
  · rfl

/-- A purchase that is handled is counted and gives the cursor. -/
theorem outcome_read {stats read : Stats} {store changed : Store} {entitlement : Entitlement}
    (h : outcome planId now stats store entitlement = (.ok read, changed)) :
    read.seen = stats.seen + 1 ∧ cursor? entitlement.id = some read.lastId := by
  unfold outcome at h
  cases hid : cursor? entitlement.id with
  | none => simp [hid] at h
  | some id =>
    simp only [hid] at h
    split at h
    · obtain rfl := Except.ok.inj (Prod.mk.inj h).1
      simp
    · split at h
      · obtain rfl := Except.ok.inj (Prod.mk.inj h).1
        simp
      · simp at h

/-- A purchase whose identifier is a number cannot be handled only where the store fails. -/
theorem outcome_failure {stats : Stats} {store changed : Store} {entitlement : Entitlement}
    {failure : Failure} (hid : (cursor? entitlement.id).isSome)
    (h : outcome planId now stats store entitlement = (.error failure, changed)) :
    ∃ error, failure = .persistence error := by
  unfold outcome at h
  obtain ⟨id, hid⟩ := Option.isSome_iff_exists.mp hid
  simp only [hid] at h
  split at h
  · simp at h
  · split at h
    · simp at h
    · next error changed hupsert => exact ⟨error, (Except.error.inj (Prod.mk.inj h).1).symm⟩

/-- Where purchases are handled, the first one is and then the others are. -/
theorem outcomes_cons_ok {stats read : Stats} {store changed : Store} {entitlement : Entitlement}
    {page : List Entitlement} {events : List Event}
    (h : outcomes planId now stats store (entitlement :: page) = (.ok read, changed, events)) :
    ∃ next reached later, outcome planId now stats store entitlement = (.ok next, reached) ∧
      outcomes planId now next reached page = (.ok read, changed, later) ∧
        events = entitlement.told now ++ later := by
  rw [outcomes] at h
  cases hfirst : outcome planId now stats store entitlement with
  | mk result reached =>
  rw [hfirst] at h
  cases result with
  | error failure => simp at h
  | ok next =>
    simp only [Prod.mk.injEq] at h
    obtain ⟨hread, hchanged, rfl⟩ := h
    exact ⟨next, reached, _, rfl, Prod.ext hread (Prod.ext hchanged rfl), rfl⟩

/-- Purchases that are handled are all counted, and the last one gives the cursor. -/
theorem outcomes_read {stats read : Stats} {store changed : Store} {page : List Entitlement}
    {events : List Event} (h : outcomes planId now stats store page = (.ok read, changed, events)) :
    read.seen = stats.seen + page.length ∧
      ∀ last ∈ page.getLast?, cursor? last.id = some read.lastId := by
  induction page generalizing stats store events with
  | nil =>
    obtain ⟨rfl, -⟩ : stats = read ∧ _ := by simpa [outcomes] using h
    exact ⟨rfl, by simp⟩
  | cons entitlement page ih =>
    obtain ⟨next, reached, later, hfirst, hrest, -⟩ := outcomes_cons_ok planId now h
    obtain ⟨hseen, hid⟩ := outcome_read planId now hfirst
    obtain ⟨hcount, hlast⟩ := ih hrest
    refine ⟨by rw [hcount, hseen, List.length_cons]; omega, fun last hmem ↦ ?_⟩
    rw [List.getLast?_cons] at hmem
    cases hpage : page.getLast? with
    | some later =>
      rw [hpage] at hmem
      obtain rfl : later = last := by simpa using hmem
      exact hlast later hpage
    | none =>
      obtain rfl := List.getLast?_eq_none_iff.mp hpage
      obtain rfl : entitlement = last := by simpa using hmem
      obtain rfl : next = read := Except.ok.inj (Prod.mk.inj hrest).1
      exact hid

/-- Purchases whose identifiers are numbers cannot be handled only where the store fails. -/
theorem outcomes_failure {stats : Stats} {store changed : Store} {page : List Entitlement}
    {failure : Failure} {events : List Event}
    (hids : ∀ entitlement ∈ page, (cursor? entitlement.id).isSome)
    (h : outcomes planId now stats store page = (.error failure, changed, events)) :
    ∃ error, failure = .persistence error := by
  induction page generalizing stats store events with
  | nil => simp [outcomes] at h
  | cons entitlement page ih =>
    rw [outcomes] at h
    cases hfirst : outcome planId now stats store entitlement with
    | mk result reached =>
    rw [hfirst] at h
    cases result with
    | error cause =>
      obtain rfl : cause = failure := Except.error.inj (Prod.mk.inj h).1
      exact outcome_failure planId now (hids entitlement List.mem_cons_self) hfirst
    | ok next =>
      simp only [Prod.mk.injEq] at h
      have hrest : outcomes planId now next reached page = (.error failure, changed, _) :=
        Prod.ext h.1 (Prod.ext h.2.1 rfl)
      exact ih (fun entitlement hmem ↦ hids entitlement (List.mem_cons_of_mem _ hmem)) hrest

/-- Where credits are accepted the store does not fail while a purchase is handled, and credits are
accepted still. -/
theorem outcome_accepted {store : Store} (h : AcceptsCredits store) (stats : Stats)
    (entitlement : Entitlement) :
    AcceptsCredits (outcome planId now stats store entitlement).2 ∧
      ∀ error, (outcome planId now stats store entitlement).1 ≠ .error (.persistence error) := by
  unfold outcome
  cases cursor? entitlement.id with
  | none => exact ⟨h, by simp⟩
  | some id =>
    dsimp only
    cases entitlement.credit? planId now with
    | none => exact ⟨h, by simp⟩
    | some credit =>
      obtain ⟨upsert, changed, hrun, hchanged⟩ := h.run_upsertCredit credit now.stored
      dsimp only
      rw [hrun]
      exact ⟨hchanged, by simp⟩

/-- Where credits are accepted the store does not fail while purchases are handled, and credits are
accepted still. -/
theorem outcomes_accepted {store : Store} (h : AcceptsCredits store) (stats : Stats)
    (page : List Entitlement) :
    AcceptsCredits (outcomes planId now stats store page).2.1 ∧
      ∀ error, (outcomes planId now stats store page).1 ≠ .error (.persistence error) := by
  induction page generalizing stats store with
  | nil => exact ⟨h, by simp [outcomes]⟩
  | cons entitlement page ih =>
    obtain ⟨hfirst, hfailure⟩ := outcome_accepted planId now h stats entitlement
    rw [outcomes]
    cases hrun : outcome planId now stats store entitlement with
    | mk result changed =>
    rw [hrun] at hfirst hfailure
    cases result with
    | error failure => exact ⟨hfirst, hfailure⟩
    | ok next => exact ih hfirst next

/-- Handling a purchase changes at most the credits. -/
theorem outcome_frame (stats : Stats) (store : Store) (entitlement : Entitlement) :
    ∃ credits, (outcome planId now stats store entitlement).2 = { store with credits } := by
  have hsame : ∃ credits, store = { store with credits } := ⟨store.credits, rfl⟩
  unfold outcome
  cases cursor? entitlement.id with
  | none => exact hsame
  | some id =>
    dsimp only
    cases entitlement.credit? planId now with
    | none => exact hsame
    | some credit =>
      dsimp only
      rw [run_upsertCredit]
      cases store.credits with
      | none => exact hsame
      | some rows =>
        dsimp only
        cases store.refusal? (changeOf rows credit.subscriptionId) .credits
            (some credit.subscriptionId) true none with
        | some error => exact hsame
        | none => exact ⟨_, rfl⟩

/-- Handling purchases changes at most the credits. -/
theorem outcomes_frame (stats : Stats) (store : Store) (page : List Entitlement) :
    ∃ credits, (outcomes planId now stats store page).2.1 = { store with credits } := by
  induction page generalizing stats store with
  | nil => exact ⟨store.credits, rfl⟩
  | cons entitlement page ih =>
    obtain ⟨credits, hfirst⟩ := outcome_frame planId now stats store entitlement
    rw [outcomes]
    cases hrun : outcome planId now stats store entitlement with
    | mk result changed =>
    rw [hrun] at hfirst
    obtain rfl : changed = { store with credits } := hfirst
    cases result with
    | error failure => exact ⟨credits, rfl⟩
    | ok next => exact ih next { store with credits }

/-- Where the first purchases are handled the others are handled behind them. -/
theorem outcomes_append {stats next : Stats} {store changed : Store} {first : List Entitlement}
    {events : List Event}
    (h : outcomes planId now stats store first = (.ok next, changed, events))
    (second : List Entitlement) :
    outcomes planId now stats store (first ++ second) =
      ((outcomes planId now next changed second).1, (outcomes planId now next changed second).2.1,
        events ++ (outcomes planId now next changed second).2.2) := by
  induction first generalizing stats store events with
  | nil =>
    obtain ⟨rfl, rfl, rfl⟩ : stats = next ∧ store = changed ∧ ([] : List Event) = events := by
      simpa [outcomes] using h
    rfl
  | cons entitlement first ih =>
    obtain ⟨read, reached, later, hfirst, hrest, rfl⟩ := outcomes_cons_ok planId now h
    rw [List.cons_append, outcomes, hfirst]
    dsimp only
    rw [ih hrest, List.append_assoc]

variable {σ : Type}

/-- Keeping the credit of a subscription reports it and puts its credit into the store. -/
theorem run_keepCredit (stats : Stats) (entitlement : Entitlement) (setting : Setting σ) :
    (keepCredit planId now stats entitlement : Job Failure σ Stats).run setting =
      let told : Setting σ :=
        { setting with journal := (entitlement.reports now).reverse ++ setting.journal }
      match entitlement.subscription? with
      | none => (.ok { stats with withoutId := stats.withoutId + 1 }, told)
      | some subscriptionId =>
        let credit := newCredit planId now entitlement subscriptionId (entitlement.activityAt now)
        match (upsertCredit credit now.stored).run setting.store with
        | (.ok upsert, changed) => (.ok (stats.count upsert), { told with store := changed })
        | (.error error, changed) =>
          (.error (.persistence error), { told with store := changed }) := by
  unfold keepCredit
  dsimp only
  rw [run_bind_ok (Job.run_forM_report _ _)]
  unfold Entitlement.reports Entitlement.activityAt
  cases entitlement.subscription? with
  | none => rfl
  | some subscriptionId =>
    dsimp only
    rw [run_bind_ok (Job.run_attempt _ _)]
    dsimp only
    generalize (upsertCredit _ now.stored).run setting.store = result
    rcases result with ⟨error | upsert, changed⟩ <;> rfl

/-- Handling a purchase does what `outcome` and `told` say and nothing else. -/
theorem run_handle (stats : Stats) (entitlement : Entitlement) (setting : Setting σ) :
    (handle planId now stats entitlement : Job Failure σ Stats).run setting =
      ((outcome planId now stats setting.store entitlement).1,
        { setting with
          store := (outcome planId now stats setting.store entitlement).2
          journal := (entitlement.told now).reverse ++ setting.journal }) := by
  unfold handle outcome Entitlement.told
  cases cursor? entitlement.id with
  | none => rfl
  | some id =>
    dsimp only
    cases hkind : entitlement.isSubscription with
    | false => simp [Entitlement.credit?, Entitlement.earns, Stats.noted, hkind]
    | true =>
      rw [if_pos rfl, run_keepCredit]
      simp only [Entitlement.credit?, Entitlement.earns, Stats.noted, hkind, Option.isSome_some,
        and_self, if_true]
      cases entitlement.subscription? with
      | none => rfl
      | some subscriptionId =>
        dsimp only [Option.map_some]
        generalize (upsertCredit _ now.stored).run setting.store = result
        rcases result with ⟨error | upsert, changed⟩ <;> rfl

/-- Handling purchases in turn does what `outcomes` says and nothing else. -/
theorem run_foldlM_handle (page : List Entitlement) (stats : Stats) (setting : Setting σ) :
    (page.foldlM (handle planId now) stats : Job Failure σ Stats).run setting =
      ((outcomes planId now stats setting.store page).1,
        { setting with
          store := (outcomes planId now stats setting.store page).2.1
          journal :=
            (outcomes planId now stats setting.store page).2.2.reverse ++ setting.journal }) := by
  induction page generalizing stats setting with
  | nil => rfl
  | cons entitlement page ih =>
    rw [List.foldlM_cons, run_bind, run_handle, outcomes]
    rcases outcome planId now stats setting.store entitlement with ⟨failure | next, store⟩
    · rfl
    · dsimp only
      rw [ih]
      simp

end

end BotOps.Billing
