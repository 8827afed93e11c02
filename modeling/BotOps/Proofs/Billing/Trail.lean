import BotOps.Proofs.Billing.Interruption
import BotOps.Proofs.Billing.Settlement

/-!
# The trail of a reconciliation

What a run reports tells what it did. Each page is reported when it has come, and then each
subscription on it when it is reached, behind what could not be read of its validity. The report
shows the flag that the row of the subscription has once the credit is kept. `Audited` collects what
the events say about the purchases and about the store, and every run is audited by its events,
whether or not it fails: `reconcile_audited`.
-/

namespace BotOps.Event

/-- An event informs with a message. -/
def informs (message : String) (event : Event) : Bool :=
  event.level = .info ∧ event.message = message

/-- An event names a subscription. -/
def names (id : String) (event : Event) : Bool := ("subscription", .text id) ∈ event.fields

/-- An event shows a flag. -/
def ShowsActive (active : Int64) (event : Event) : Prop :=
  ("active", .whole active.toInt) ∈ event.fields

end BotOps.Event

namespace BotOps.Billing

open BotOps.Store BotOps.Time

namespace Entitlement

/-- The report about a subscription. -/
def notice (now : Instant) (record : Entitlement) : Event :=
  let start := record.startsAt.bind Instant.parse?
  let stop := record.endsAt.bind Instant.parse?
  .subscription record (.of now start stop) start stop

/-- What is reported when a purchase is reached: nothing if it is no subscription. -/
def trail (now : Instant) (record : Entitlement) : List Event :=
  if record.isSubscription then
    warnings "starts_at" record.startsAt ++ warnings "ends_at" record.endsAt ++ [record.notice now]
  else []

end Entitlement

/-- What is reported about a fetch, some of whose purchases are reached. -/
def Fetch.trail (now : Instant) (fetch : Fetch) (reached : List Entitlement) : List Event :=
  match fetch.answer with
  | .error _ => []
  | .ok page => .pageFetched fetch.after page.length :: reached.flatMap (Entitlement.trail now)

/-- A subscription has a row, and its rows have the flag that an event shows. -/
def StoredAs (store : Store) (id : String) (event : Event) : Prop :=
  ∃ rows, store.credits = some rows ∧ id ∈ rows.map CreditRow.subscriptionId ∧
    ∀ row ∈ rows, row.subscriptionId = id → event.ShowsActive row.active

section

variable (planId : String) (now : Instant)

/-- Which purchases of the fetch that a run ends with are handled and which are reached. -/
inductive Reaches (last : Store) (fetch : Fetch) :
    Except Failure Stats → List Entitlement → List Entitlement → Prop where
  | unanswered {failure} (answer : fetch.answer = .error failure) :
      Reaches last fetch (.error failure) [] []
  /-- The identifier of the next purchase is no number. -/
  | unnumbered {done record rest} (answer : fetch.answer = .ok (done ++ record :: rest))
      (number : cursor? record.id = none) :
      Reaches last fetch (.error (.service (.badIdentifier record.id))) done done
  /-- The credit of the purchase that is reached last cannot be kept. -/
  | unkept {done record rest credit error} (answer : fetch.answer = .ok (done ++ record :: rest))
      (earned : record.credit? planId now = some credit)
      (failed : (upsertCredit credit now.stored).run last = (.error error, last)) :
      Reaches last fetch (.error (.persistence error)) done (done ++ [record])
  | still {page} (answer : fetch.answer = .ok page) :
      Reaches last fetch (.error (.service (.noProgress fetch.after))) page page
  | short {page stats} (answer : fetch.answer = .ok page) : Reaches last fetch (.ok stats) page page

/-- Purchases are handled in turn, from one store to another, and the credits that they earn are
kept with the flags that the reports about them show. -/
inductive Written : Store → List Entitlement → Store → Prop where
  | nil (store : Store) : Written store [] store
  | skip {store last record rest} (idle : record.credit? planId now = none)
      (later : Written store rest last) : Written store (record :: rest) last
  | keep {store middle last record rest credit upsert}
      (earned : record.credit? planId now = some credit)
      (kept : (upsertCredit credit now.stored).run store = (.ok upsert, middle))
      (shown : StoredAs middle credit.subscriptionId (record.notice now))
      (later : Written middle rest last) : Written store (record :: rest) last

/-- Events tell what a run did that ended with a fetch behind some others: it reached all purchases
of the others and some of the last one, and it kept the credits of those that it had done with. -/
structure Audited (before : Store) (front : List Fetch) (last : Fetch)
    (result : Except Failure Stats) (after : Store) (done reached : List Entitlement)
    (events : List Event) : Prop where
  answered : ∀ fetch ∈ front, ∃ page, fetch.answer = .ok page
  reaches : Reaches planId now after last result done reached
  numbered : ∀ record ∈ recordsOf front ++ reached, (cursor? record.id).isSome
  /-- Nothing else is reported, and a success is reported last. -/
  trail : events = front.flatMap (fun fetch ↦ fetch.trail now fetch.records) ++
    last.trail now reached ++ closing result
  /-- Each subscription that is reached is reported once and in turn. -/
  notices : events.filter (Event.informs "subscription") =
    ((recordsOf front ++ reached).filter Entitlement.isSubscription).map (Entitlement.notice now)
  /-- Only a success is reported as such, with its counts. -/
  closes : events.filter (Event.informs "entitlements reconciled") = closing result
  written : Written planId now before (recordsOf front ++ done) after

end

section

variable {planId : String} {now : Instant} {record : Entitlement}

/-! ## What is told of a purchase -/

/-- The report shows the activity by which the credit is kept. -/
theorem notice_eq (record : Entitlement) :
    record.notice now = .subscription record (record.activityAt now)
      (record.startsAt.bind Instant.parse?) (record.endsAt.bind Instant.parse?) := by
  unfold Entitlement.notice Entitlement.activityAt
  rw [readBound_eq, readBound_eq]

private theorem told_eq_trail (h : (cursor? record.id).isSome) :
    record.told now = record.trail now := by
  unfold Entitlement.told Entitlement.trail Entitlement.reports
  rw [readBound_eq, readBound_eq, notice_eq]
  simp only [h, true_and]

private theorem told_of_unnumbered (h : cursor? record.id = none) : record.told now = [] := by
  unfold Entitlement.told
  rw [h]
  rfl

private theorem flatMap_told {records : List Entitlement}
    (h : ∀ record ∈ records, (cursor? record.id).isSome) :
    records.flatMap (Entitlement.told now) = records.flatMap (Entitlement.trail now) :=
  List.flatMap_congr fun record hrecord ↦ told_eq_trail (h record hrecord)

/-! ## What is told of a run -/

variable {stats read : Stats} {store changed last : Store} {page : List Entitlement}
  {events : List Event} {failure : Failure} {fetches : List Fetch}
  {result : Except Failure Stats}

/-- Of a page that is handled all purchases are told. -/
theorem pageOutcome_trail
    (h : pageOutcome planId now stats store page = (.ok read, changed, events)) :
    events = Fetch.trail now ⟨stats.lastId, .ok page⟩ page := by
  obtain ⟨hhandled, -⟩ := pageOutcome_ok h
  obtain ⟨other, hall⟩ := hhandled.outcomes_eq { stats with pages := stats.pages + 1 }
  unfold pageOutcome at h
  rw [hall] at h
  obtain ⟨-, -, rfl⟩ := h
  exact congrArg _ (flatMap_told hhandled.numbered)

/-- Of a page that cannot be handled the purchases before the failure are told, and the one that
fails if it is reached. -/
theorem pageOutcome_trail_error
    (h : pageOutcome planId now stats store page = (.error failure, changed, events)) :
    ∃ done reached,
      Reaches planId now changed ⟨stats.lastId, .ok page⟩ (.error failure) done reached ∧
      Handled planId now store done changed ∧
      (∀ record ∈ reached, (cursor? record.id).isSome) ∧
      events = Fetch.trail now ⟨stats.lastId, .ok page⟩ reached := by
  obtain ⟨done, record, rest, rfl, hdone, hrefused⟩ := pageOutcome_error h
  obtain ⟨other, hfirst⟩ := hdone.outcomes_eq { stats with pages := stats.pages + 1 }
  unfold pageOutcome at h
  rw [outcomes_append planId now hfirst, hrefused.outcomes_eq, flatMap_told hdone.numbered] at h
  obtain ⟨-, -, rfl⟩ := h
  cases hrefused with
  | unnumbered number =>
    refine ⟨done, done, .unnumbered rfl number, hdone, hdone.numbered, ?_⟩
    rw [told_of_unnumbered number, List.append_nil]
    rfl
  | unkept number earned failed =>
    refine ⟨done, done ++ [record], .unkept rfl earned failed, hdone, ?_, ?_⟩
    · exact List.forall_mem_append.mpr ⟨hdone.numbered, List.forall_mem_singleton.mpr number⟩
    · rw [told_eq_trail number]
      simp [Fetch.trail]

/-- A run reaches the purchases of all its fetches but the last, and tells of these and of those
that it reaches with the last one. -/
theorem Paged.trail (h : Paged planId now stats store fetches result last events) :
    ∃ front final done reached, fetches = front ++ [final] ∧
      Reaches planId now last final result done reached ∧
      Handled planId now store (recordsOf front ++ done) last ∧
      (∀ fetch ∈ front, ∃ page, fetch.answer = .ok page) ∧
      (∀ record ∈ recordsOf front ++ reached, (cursor? record.id).isSome) ∧
      events = front.flatMap (fun fetch ↦ fetch.trail now fetch.records) ++
        final.trail now reached := by
  induction h with
  | unanswered =>
    exact ⟨[], _, [], [], rfl, .unanswered rfl, .nil _, List.forall_mem_nil _,
      List.forall_mem_nil _, rfl⟩
  | unhandled handled =>
    obtain ⟨done, reached, hreaches, hdone, hnumbered, hevents⟩ := pageOutcome_trail_error handled
    exact ⟨[], _, done, reached, rfl, hreaches, hdone, List.forall_mem_nil _, hnumbered, hevents⟩
  | @short _ _ page _ _ _ handled _ =>
    have hpage := (pageOutcome_ok handled).1
    exact ⟨[], _, page, page, rfl, .short rfl, hpage, List.forall_mem_nil _, hpage.numbered,
      pageOutcome_trail handled⟩
  | @stuck _ _ page _ _ _ handled _ _ =>
    have hpage := (pageOutcome_ok handled).1
    exact ⟨[], _, page, page, rfl, .still rfl, hpage, List.forall_mem_nil _, hpage.numbered,
      pageOutcome_trail handled⟩
  | @more stats _ page _ _ _ _ _ _ _ handled _ _ _ ih =>
    obtain ⟨front, final, done, reached, rfl, hreaches, hdone, hanswers, hnumbered, rfl⟩ := ih
    have hpage := (pageOutcome_ok handled).1
    refine ⟨⟨stats.lastId, .ok page⟩ :: front, final, done, reached, rfl, hreaches, ?_,
      List.forall_mem_cons.mpr ⟨⟨page, rfl⟩, hanswers⟩, ?_, ?_⟩
    · exact List.append_assoc .. ▸ hpage.append hdone
    · exact List.append_assoc .. ▸ List.forall_mem_append.mpr ⟨hpage.numbered, hnumbered⟩
    · rw [pageOutcome_trail handled, List.flatMap_cons, List.append_assoc]
      rfl

/-! ## Picking events -/

/-- Of the events about a purchase only the report about a subscription has a property that the
warnings lack. -/
theorem filter_trail {p : Event → Bool}
    (hwarning : ∀ field value, p (.badTimestamp field value) = false) (record : Entitlement) :
    (record.trail now).filter p =
      if record.isSubscription ∧ p (record.notice now) then [record.notice now] else [] := by
  have hwarnings (field : String) (raw : Option String) : (warnings field raw).filter p = [] := by
    unfold warnings
    split
    · rfl
    · split
      · exact List.filter_cons_of_neg (by simp [hwarning])
      · rfl
  unfold Entitlement.trail
  cases record.isSubscription with
  | false => simp
  | true => simp [hwarnings, List.filter_cons]

/-- Of the events about purchases only reports about subscriptions have a property that the
warnings lack. -/
theorem filter_flatMap_trail {p : Event → Bool}
    (hwarning : ∀ field value, p (.badTimestamp field value) = false) (records : List Entitlement) :
    (records.flatMap (Entitlement.trail now)).filter p =
      (records.filter fun record ↦ record.isSubscription && p (record.notice now)).map
        (Entitlement.notice now) := by
  induction records with
  | nil => rfl
  | cons record records ih =>
    rw [List.flatMap_cons, List.filter_append, ih, filter_trail hwarning, List.filter_cons]
    by_cases h : record.isSubscription ∧ p (record.notice now) <;> simp [h]

/-- If the reports about pages lack a property too, what has it in the trail of a run are reports
about subscriptions. -/
theorem filter_fetches {p : Event → Bool}
    (hwarning : ∀ field value, p (.badTimestamp field value) = false)
    (hpage : ∀ after records, p (.pageFetched after records) = false) (front : List Fetch)
    {final : Fetch} {done reached : List Entitlement}
    (hreaches : Reaches planId now last final result done reached) :
    (front.flatMap (fun fetch ↦ fetch.trail now fetch.records) ++
        final.trail now reached).filter p =
      ((recordsOf front ++ reached).filter fun record ↦
        record.isSubscription && p (record.notice now)).map (Entitlement.notice now) := by
  have hfetch (fetch : Fetch) (records : List Entitlement)
      (h : ∀ failure, fetch.answer = .error failure → records = []) :
      (fetch.trail now records).filter p =
        (records.filter fun record ↦ record.isSubscription && p (record.notice now)).map
          (Entitlement.notice now) := by
    unfold Fetch.trail
    split
    · next failure hanswer =>
      rw [h failure hanswer]
      rfl
    · rw [List.filter_cons_of_neg (by simp [hpage]), filter_flatMap_trail hwarning]
  have hfinal := hfetch final reached fun failure hanswer ↦ by
    cases hreaches with
    | unanswered => rfl
    | unnumbered answer => cases hanswer.symm.trans answer
    | unkept answer => cases hanswer.symm.trans answer
    | still answer => cases hanswer.symm.trans answer
    | short answer => cases hanswer.symm.trans answer
  rw [List.filter_append, hfinal, List.filter_append, List.map_append]
  congr 1
  induction front with
  | nil => rfl
  | cons fetch front ih =>
    rw [List.flatMap_cons, List.filter_append, ih]
    have hone := hfetch fetch fetch.records fun failure hanswer ↦ by
      unfold Fetch.records
      rw [hanswer]
    rw [hone, ← List.map_append, ← List.filter_append]
    rfl

/-! ## Flags -/

/-- The report about a subscription shows the flag of its activity. -/
theorem showsActive_notice (record : Entitlement) {active : Int64}
    (h : active = (record.activityAt now).flag) : (record.notice now).ShowsActive active := by
  rw [h, notice_eq, Event.ShowsActive]
  simp [Event.fields]

/-- When the credit of a purchase is kept, the row has the flag that the report shows. -/
theorem storedAs_of_run_upsertCredit {middle : Store} {credit : Credit} {upsert : Upsert}
    (earned : record.credit? planId now = some credit)
    (kept : (upsertCredit credit now.stored).run store = (.ok upsert, middle)) :
    StoredAs middle credit.subscriptionId (record.notice now) := by
  obtain ⟨rows, hrows⟩ := exists_credits_of_run_upsertCredit kept
  obtain ⟨-, rfl⟩ := run_upsertCredit_ok hrows kept
  refine ⟨_, rfl, mem_subscriptionId_putCredit rows credit now.stored, fun row hrow hid ↦ ?_⟩
  refine showsActive_notice record ?_
  rw [active_of_mem_putCredit hrow hid]
  obtain ⟨id, -, rfl⟩ := Option.map_eq_some_iff.mp earned
  rfl

/-- What is handled is kept with the flags that the reports show. -/
theorem Handled.written {records : List Entitlement} (h : Handled planId now store records last) :
    Written planId now store records last := by
  induction h with
  | nil store => exact .nil store
  | skip _ idle _ ih => exact .skip idle ih
  | keep _ earned kept _ ih => exact .keep earned kept (storedAs_of_run_upsertCredit earned kept) ih

/-- A credit is kept only where there is a table of credits. -/
theorem Handled.exists_credits {records : List Entitlement}
    (h : Handled planId now store records last) (hrecord : record ∈ records)
    {id : String} (hearns : record.earns = some id) : ∃ rows, store.credits = some rows := by
  induction h with
  | nil => cases hrecord
  | skip _ idle _ ih =>
    rcases List.mem_cons.mp hrecord with rfl | hrecord
    · simp [Entitlement.credit?, hearns] at idle
    · exact ih hrecord
  | keep _ _ kept => exact exists_credits_of_run_upsertCredit kept

/-- After all purchases are settled the row of a subscription has the flag that the report about its
last purchase shows. -/
theorem Settled.storedAs {before after : List CreditRow} {records : List Entitlement} {id : String}
    (h : Settled planId now before records stats after) (hstore : store.credits = some after)
    (hlast : (purchasesOf records id).getLast? = some record) :
    StoredAs store id (record.notice now) := by
  obtain ⟨added, rfl, hadded, -⟩ := h.rows
  have hrecord := List.mem_filter.mp (List.mem_of_getLast? hlast)
  have hflag : (if record.IsActiveAt now then 1 else 0) = (record.activityAt now).flag := by
    unfold Activity.flag
    rw [isActive_activityAt]
    simp
  refine ⟨_, hstore, ?_, fun row hrow hid ↦ showsActive_notice record ?_⟩
  · rw [List.map_append, List.mem_append]
    by_cases hold : id ∈ before.map CreditRow.subscriptionId
    · obtain ⟨row, hrow, rfl⟩ := List.mem_map.mp hold
      refine .inl (List.mem_map.mpr ⟨_, List.mem_map_of_mem hrow, ?_⟩)
      exact subscriptionId_refreshed records row
    · exact .inr ((hadded.mem_iff id).mpr ⟨⟨record, hrecord.1, of_decide_eq_true hrecord.2⟩, hold⟩)
  · rcases List.mem_append.mp hrow with hrow | hrow
    · obtain ⟨old, -, rfl⟩ := List.mem_map.mp hrow
      rw [subscriptionId_refreshed] at hid
      rw [refreshed, hid, hlast]
      exact hflag
    · obtain ⟨first, final, -, hfinal, heq⟩ := hadded.eq_addedRow row hrow
      rw [hid, hlast] at hfinal
      obtain rfl := Option.some.inj hfinal
      rw [heq]
      exact hflag

/-! ## Names and numbers -/

/-- A name for which a credit is earned is not blank. -/
theorem isBlankText_of_earns {id : String} (h : record.earns = some id) :
    Text.isBlankText id = false := by
  unfold Entitlement.earns at h
  split at h
  · simpa using (Option.filter_eq_some_iff.mp h).2
  · cases h

/-- The report about a subscription names the one for which the purchase earns a credit. -/
theorem names_notice_iff {id : String} (usable : Text.isBlankText id = false) :
    record.isSubscription = true ∧ (record.notice now).names id = true ↔
      record.earns = some id := by
  have hnames : (record.notice now).names id = true ↔ record.subscriptionId.getD "" = id := by
    rw [notice_eq, Event.names]
    simp [Event.fields, eq_comm]
  have hnamed : record.subscriptionId.getD "" = id ↔ record.subscription? = some id := by
    unfold Entitlement.subscription?
    cases record.subscriptionId with
    | none =>
      refine iff_of_false (fun h ↦ ?_) (by simp)
      rw [← h] at usable
      exact absurd usable (by decide)
    | some name =>
      rw [Option.filter_eq_some_iff]
      simp only [Option.getD_some, Option.some.injEq]
      exact ⟨fun h ↦ ⟨h, by simp [usable]⟩, And.left⟩
  rw [hnames, hnamed, Entitlement.earns]
  cases record.isSubscription <;> simp

/-- A purchase is counted as a subscription or not. -/
theorem Stats.subscriptions_noted (stats : Stats) (record : Entitlement) (id : UInt64)
    (upsert : Option Upsert) :
    (stats.noted record id upsert).subscriptions =
      stats.subscriptions + if record.isSubscription then 1 else 0 := by
  unfold noted
  cases record.isSubscription with
  | false => rfl
  | true => rcases upsert with - | - | - <;> rfl

private theorem outcome_subscriptions
    (h : outcome planId now stats store record = (.ok read, changed)) :
    read.subscriptions = stats.subscriptions + if record.isSubscription then 1 else 0 := by
  unfold outcome at h
  split at h
  · cases (Prod.mk.inj h).1
  · split at h
    · obtain rfl := Except.ok.inj (Prod.mk.inj h).1
      exact stats.subscriptions_noted record _ none
    · split at h
      · obtain rfl := Except.ok.inj (Prod.mk.inj h).1
        exact stats.subscriptions_noted record _ _
      · cases (Prod.mk.inj h).1

/-- Purchases that are handled are counted as subscriptions or not. -/
theorem outcomes_subscriptions
    (h : outcomes planId now stats store page = (.ok read, changed, events)) :
    read.subscriptions = stats.subscriptions + page.countP Entitlement.isSubscription := by
  induction page generalizing stats store events with
  | nil =>
    obtain ⟨rfl, -⟩ : stats = read ∧ _ := by simpa [outcomes] using h
    rfl
  | cons record page ih =>
    obtain ⟨next, reached, later, hfirst, hrest, -⟩ := outcomes_cons_ok planId now h
    rw [ih hrest, outcome_subscriptions hfirst, List.countP_cons]
    omega

/-! ## Runs -/

private theorem filter_closing {p : Event → Bool} (h : ∀ stats, p (.reconciled stats) = false)
    (result : Except Failure Stats) : (closing result).filter p = [] := by
  cases result with
  | error failure => rfl
  | ok stats => exact List.filter_cons_of_neg (by simp [h])

/-- A success reaches and handles the whole page. -/
theorem Reaches.records_eq {fetch : Fetch} {done reached : List Entitlement}
    (h : Reaches planId now last fetch (.ok stats) done reached) :
    fetch.records = reached ∧ done = reached := by
  cases h with
  | short answer =>
    unfold Fetch.records
    rw [answer]
    exact ⟨rfl, rfl⟩

/-- The trail of a run audits it. -/
theorem Paged.audited {final : Store}
    (h : Paged planId now stats store fetches result final events) :
    ∃ front last done reached, fetches = front ++ [last] ∧
      Audited planId now store front last result final done reached (events ++ closing result) ∧
      Handled planId now store (recordsOf front ++ done) final := by
  obtain ⟨front, last, done, reached, hfetches, hreaches, hhandled, hanswers, hnumbered, rfl⟩ :=
    h.trail
  refine ⟨front, last, done, reached, hfetches, ?_, hhandled⟩
  exact
    { answered := hanswers
      reaches := hreaches
      numbered := hnumbered
      trail := rfl
      notices := by
        have hnotice (record : Entitlement) : (record.notice now).informs "subscription" = true :=
          rfl
        rw [List.filter_append, filter_fetches (fun _ _ ↦ rfl) (fun _ _ ↦ rfl) front hreaches,
          filter_closing fun _ ↦ rfl, List.append_nil]
        simp only [hnotice, Bool.and_true]
      closes := by
        have hnotice (record : Entitlement) :
            (record.notice now).informs "entitlements reconciled" = false := rfl
        rw [List.filter_append, filter_fetches (fun _ _ ↦ rfl) (fun _ _ ↦ rfl) front hreaches]
        simp only [hnotice, Bool.and_false, List.filter_false, List.map_nil, List.nil_append]
        cases result <;> rfl
      written := hhandled.written }

/-- The events that name a subscription are the reports about its purchases. -/
theorem Audited.filter_names {before after : Store} {front : List Fetch} {last : Fetch}
    {done reached : List Entitlement} {id : String}
    (h : Audited planId now before front last result after done reached events)
    (usable : Text.isBlankText id = false) :
    events.filter (Event.names id) =
      (purchasesOf (recordsOf front ++ reached) id).map (Entitlement.notice now) := by
  rw [h.trail, List.filter_append, filter_fetches (fun _ _ ↦ rfl) (fun _ _ ↦ rfl) front h.reaches,
    filter_closing fun _ ↦ rfl, List.append_nil, purchasesOf]
  congr 1
  refine List.filter_congr fun record _ ↦ ?_
  rw [Bool.eq_iff_iff]
  simpa using names_notice_iff usable

end

/-- Every reconciliation is audited by its events, whether or not it fails. After a success as many
subscriptions are counted as are reported, and the row of each subscription for which a purchase
earned a credit has the flag in the last event that names it. Here the fetches are those that
`Source.recorded` keeps during the run. -/
theorem reconcile_audited {σ : Type} (planId : String) (now : Instant) (source : Source σ)
    (setting : Setting σ) :
    let run := (reconcile planId now source).run setting
    ∃ front last done reached events,
      (reconcile planId now source.recorded).run (watched setting []) =
        (run.1, watched run.2 (front ++ [last])) ∧
      run.2.events = setting.events ++ events ∧
      Audited planId now setting.store front last run.1 run.2.store done reached events ∧
      ∀ stats, run.1 = .ok stats →
        stats.subscriptions = (events.filter (Event.informs "subscription")).length ∧
        ∀ record ∈ recordsOf (front ++ [last]), ∀ id, record.earns = some id →
          ∃ event, (events.filter (Event.names id)).getLast? = some event ∧
            StoredAs run.2.store id event := by
  intro run
  obtain ⟨fetches, events, hpaged, -, hjournal, hkept⟩ :=
    exists_paged_reconcile planId now source setting
  obtain ⟨front, last, done, reached, rfl, haudited, hhandled⟩ := hpaged.audited
  refine ⟨front, last, done, reached, events ++ closing run.1, hkept [], ?_, haudited,
    fun stats hsuccess ↦ ?_⟩
  · unfold Setting.events
    rw [hjournal, List.reverse_append, List.reverse_reverse]
  -- A success has settled all purchases that were fetched.
  have hreaches := haudited.reaches
  rw [hsuccess] at hpaged hreaches
  obtain ⟨hrecords, rfl⟩ := hreaches.records_eq
  have hall : recordsOf (front ++ [last]) = recordsOf front ++ done := by
    simp [recordsOf, hrecords]
  obtain ⟨-, -, houtcomes⟩ := hpaged.outcomes_eq
  rw [hall] at houtcomes ⊢
  refine ⟨?_, fun record hrecord id hearns ↦ ?_⟩
  · rw [haudited.notices, List.length_map, ← List.countP_eq_length_filter]
    exact (outcomes_subscriptions houtcomes).trans (Nat.zero_add _)
  · obtain ⟨before, hbefore⟩ := hhandled.exists_credits hrecord hearns
    obtain ⟨after, hafter, hsettled⟩ := (Settled.start before).outcomes hbefore houtcomes
    have hmet : record ∈ purchasesOf (recordsOf front ++ done) id :=
      List.mem_filter.mpr ⟨hrecord, decide_eq_true hearns⟩
    have hlast := List.getLast?_eq_some_getLast (List.ne_nil_of_mem hmet)
    refine ⟨_, ?_, hsettled.storedAs (congrArg Store.credits hafter) hlast⟩
    rw [haudited.filter_names (isBlankText_of_earns hearns), List.getLast?_map, hlast]
    rfl

end BotOps.Billing
