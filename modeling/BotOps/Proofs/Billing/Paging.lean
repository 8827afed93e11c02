import BotOps.Proofs.Billing.Handling
import BotOps.Proofs.Observation

/-!
# Going through the pages

A run is told by its fetches: which cursor each one asked for and what it was answered.
`Source.recorded` keeps them while a run goes on and changes nothing else. `Paged` says without any
monad how a run follows from its fetches, and `exists_paged` that every run does so.
-/

namespace BotOps.Billing

open BotOps.Store BotOps.Time

/-- One request for a page: the cursor it asked for and what it was answered. -/
structure Fetch where
  after : UInt64
  answer : Except Failure (List Entitlement)

/-- The purchases that a fetch brought. -/
def Fetch.records (fetch : Fetch) : List Entitlement :=
  match fetch.answer with
  | .ok page => page
  | .error _ => []

/-- The purchases that some fetches brought, in order. -/
def recordsOf (fetches : List Fetch) : List Entitlement := fetches.flatMap Fetch.records

section

variable {σ : Type}

/-- A source that answers like another one and keeps the fetches. -/
def Source.recorded (source : Source σ) : Source (σ × List Fetch) :=
  fun after (outside, fetches) ↦
    let (answer, outside) := (source after).run outside
    (answer, outside, fetches ++ [⟨after, answer⟩])

/-- A setting in which some fetches have been kept. -/
def watched (setting : Setting σ) (fetches : List Fetch) : Setting (σ × List Fetch) :=
  ⟨setting.store, setting.journal, setting.outside, fetches⟩

/-- A source gives the answers of some fetches when it is asked for their cursors in turn. -/
inductive Answers (source : Source σ) : σ → List Fetch → σ → Prop where
  | nil (outside : σ) : Answers source outside [] outside
  | cons {outside next last : σ} {fetch : Fetch} {rest : List Fetch}
      (first : (source fetch.after).run outside = (fetch.answer, next))
      (later : Answers source next rest last) : Answers source outside (fetch :: rest) last

end

section

variable (planId : String) (now : Instant)

/-- What becomes of the statistics and the store when a page is handled, and what is reported. -/
def pageOutcome (stats : Stats) (store : Store) (page : List Entitlement) :
    Except Failure Stats × Store × List Event :=
  let handled := outcomes planId now { stats with pages := stats.pages + 1 } store page
  (handled.1, handled.2.1, .pageFetched stats.lastId page.length :: handled.2.2)

/-- How a run through the pages follows from its fetches: from some statistics and a store to a
result, a store and the events reported meanwhile, in order. -/
inductive Paged :
    Stats → Store → List Fetch → Except Failure Stats → Store → List Event → Prop where
  /-- The page does not come. -/
  | unanswered {stats store failure} :
      Paged stats store [⟨stats.lastId, .error failure⟩] (.error failure) store []
  /-- A purchase on the page cannot be handled. -/
  | unhandled {stats store page failure changed events}
      (handled : pageOutcome planId now stats store page = (.error failure, changed, events)) :
      Paged stats store [⟨stats.lastId, .ok page⟩] (.error failure) changed events
  /-- The page is the last one. -/
  | short {stats store page read changed events}
      (handled : pageOutcome planId now stats store page = (.ok read, changed, events))
      (size : page.length < pageSize) :
      Paged stats store [⟨stats.lastId, .ok page⟩] (.ok read) changed events
  /-- The page is full and ends no later than it begins. -/
  | stuck {stats store page read changed events}
      (handled : pageOutcome planId now stats store page = (.ok read, changed, events))
      (size : pageSize ≤ page.length) (still : read.lastId ≤ stats.lastId) :
      Paged stats store [⟨stats.lastId, .ok page⟩] (.error (.service (.noProgress stats.lastId)))
        changed events
  /-- The page is full and others follow it. -/
  | more {stats store page read changed events fetches result last later}
      (handled : pageOutcome planId now stats store page = (.ok read, changed, events))
      (size : pageSize ≤ page.length) (grows : stats.lastId < read.lastId)
      (rest : Paged read changed fetches result last later) :
      Paged stats store (⟨stats.lastId, .ok page⟩ :: fetches) result last (events ++ later)

variable {σ : Type} (source : Source σ)

/-- What a run works on after a page was handled. -/
private def reached (setting : Setting σ) (outside : σ)
    (handled : Except Failure Stats × Store × List Event) : Setting σ :=
  ⟨handled.2.1, handled.2.2.reverse ++ setting.journal, outside⟩

/-- Handling the purchases of a page does what `pageOutcome` says. -/
private theorem run_pageOutcome (stats : Stats) (setting : Setting σ) (outside : σ)
    (page : List Entitlement) :
    (page.foldlM (handle planId now) { stats with pages := stats.pages + 1 } :
        Job Failure σ Stats).run
      { setting with
        outside
        journal := .pageFetched stats.lastId page.length :: setting.journal } =
      ((pageOutcome planId now stats setting.store page).1,
        reached setting outside (pageOutcome planId now stats setting.store page)) := by
  rw [run_foldlM_handle]
  simp [pageOutcome, reached]

/-- The pages behind a cursor, one page and then the others. -/
theorem run_pages (stats : Stats) (setting : Setting σ) :
    (pages planId now source stats).run setting =
      match (source stats.lastId).run setting.outside with
      | (.error failure, outside) => (.error failure, { setting with outside })
      | (.ok page, outside) =>
        let handled := pageOutcome planId now stats setting.store page
        match handled.1 with
        | .error failure => (.error failure, reached setting outside handled)
        | .ok read =>
          if page.length < pageSize then (.ok read, reached setting outside handled)
          else if stats.lastId < read.lastId then
            (pages planId now source read).run (reached setting outside handled)
          else (.error (.service (.noProgress stats.lastId)), reached setting outside handled) := by
  rw [pages, run_bind_ok (Job.run_ask _ _)]
  rcases (source stats.lastId).run setting.outside with ⟨failure | page, outside⟩
  · rfl
  · have hpage := run_pageOutcome planId now stats setting outside page
    dsimp only
    rw [run_bind_ok (Job.run_require_ok _ _ _), run_bind_ok (Job.run_report _ _), run_bind, hpage]
    generalize pageOutcome planId now stats setting.store page = handled
    rcases handled with ⟨failure | read, changed, events⟩
    · rfl
    · dsimp only
      split
      · rfl
      · split <;> rfl

/-- Behind a full page that is handled and lets the cursor grow the others follow. -/
theorem run_pages_more {stats read : Stats} {setting : Setting σ} {outside : σ}
    {page : List Entitlement} {changed : Store} {events : List Event}
    (answer : (source stats.lastId).run setting.outside = (.ok page, outside))
    (handled : pageOutcome planId now stats setting.store page = (.ok read, changed, events))
    (size : pageSize ≤ page.length) (grows : stats.lastId < read.lastId) :
    (pages planId now source stats).run setting =
      (pages planId now source read).run
        ⟨changed, events.reverse ++ setting.journal, outside⟩ := by
  rw [run_pages, answer]
  dsimp only
  rw [handled]
  dsimp only
  rw [if_neg (Nat.not_lt.mpr size), if_pos grows]
  rfl

/-- Every run through the pages follows from its fetches: the source gives their answers, nothing
else is reported, and keeping the fetches changes nothing. -/
theorem exists_paged (stats : Stats) (setting : Setting σ) :
    ∃ fetches events,
      Paged planId now stats setting.store fetches
        ((pages planId now source stats).run setting).1
        ((pages planId now source stats).run setting).2.store events ∧
      Answers source setting.outside fetches
        ((pages planId now source stats).run setting).2.outside ∧
      ((pages planId now source stats).run setting).2.journal =
        events.reverse ++ setting.journal ∧
      ∀ before, (pages planId now source.recorded stats).run (watched setting before) =
        (((pages planId now source stats).run setting).1,
          watched ((pages planId now source stats).run setting).2 (before ++ fetches)) := by
  -- The cursor grows from page to page, which is also why the run ends.
  induction hleft : 2 ^ 64 - stats.lastId.toNat using Nat.strongRecOn
    generalizing stats setting with
  | ind left ih =>
  have hrecorded (before : List Fetch) :
      (source.recorded stats.lastId).run (watched setting before).outside =
        (((source stats.lastId).run setting.outside).1,
          ((source stats.lastId).run setting.outside).2,
          before ++ [⟨stats.lastId, ((source stats.lastId).run setting.outside).1⟩]) := rfl
  have hkeep (before : List Fetch) :=
    run_pages planId now source.recorded stats (watched setting before)
  simp only [hrecorded] at hkeep
  simp only [hkeep]
  rw [run_pages]
  cases hanswer : (source stats.lastId).run setting.outside with
  | mk answer outside =>
  have hone : Answers source setting.outside [⟨stats.lastId, answer⟩] outside :=
    .cons hanswer (.nil outside)
  cases answer with
  | error failure =>
    exact ⟨[⟨stats.lastId, .error failure⟩], [], .unanswered, hone, rfl, fun before ↦ rfl⟩
  | ok page =>
    have hstore (before : List Fetch) : (watched setting before).store = setting.store := rfl
    simp only [hstore]
    cases hhandled : pageOutcome planId now stats setting.store page with
    | mk result rest =>
    obtain ⟨changed, events⟩ := rest
    cases result with
    | error failure =>
      exact ⟨[⟨stats.lastId, .ok page⟩], events, .unhandled hhandled, hone, rfl, fun before ↦ rfl⟩
    | ok read =>
      dsimp only
      split
      · next hsize =>
        exact ⟨[⟨stats.lastId, .ok page⟩], events, .short hhandled hsize, hone, rfl,
          fun before ↦ rfl⟩
      · next hsize =>
        have hsize : pageSize ≤ page.length := Nat.le_of_not_lt hsize
        split
        · next hgrows =>
          have hlt := UInt64.lt_iff_toNat_lt.mp hgrows
          have hbound := read.lastId.toNat_lt
          obtain ⟨fetches, later, hpaged, hanswers, hjournal, hkept⟩ :=
            ih _ (by omega) read (reached setting outside (.ok read, changed, events)) rfl
          refine ⟨⟨stats.lastId, .ok page⟩ :: fetches, events ++ later,
            .more hhandled hsize hgrows hpaged, .cons hanswer hanswers, ?_, ?_⟩
          · rw [hjournal]
            simp [reached]
          · intro before
            have h := hkept (before ++ [⟨stats.lastId, .ok page⟩])
            rw [List.append_assoc] at h
            exact h
        · next hgrows =>
          have hstill : read.lastId ≤ stats.lastId := UInt64.not_lt.mp hgrows
          exact ⟨[⟨stats.lastId, .ok page⟩], events, .stuck hhandled hsize hstill, hone, rfl,
            fun before ↦ rfl⟩

/-- The answer to a single fetch is all that the source gives. -/
theorem Answers.singleton {outside final : σ} {fetch : Fetch}
    (h : Answers source outside [fetch] final) :
    (source fetch.after).run outside = (fetch.answer, final) := by
  cases h with
  | cons first later =>
  cases later
  exact first

/-- Each answer is one that the source gives in some state of the world outside. -/
theorem Answers.exists_run {outside last : σ} {fetches : List Fetch}
    (h : Answers source outside fetches last) {fetch : Fetch} (hfetch : fetch ∈ fetches) :
    ∃ before, ((source fetch.after).run before).1 = fetch.answer := by
  induction h with
  | nil => cases hfetch
  | cons first _ ih =>
    rcases List.mem_cons.mp hfetch with rfl | hfetch
    · exact ⟨_, congrArg Prod.fst first⟩
    · exact ih hfetch

/-- A run follows from fetches to which the source gives the answers. -/
theorem Paged.run_pages {stats : Stats} {store last : Store} {fetches : List Fetch}
    {result : Except Failure Stats} {events : List Event}
    (h : Paged planId now stats store fetches result last events) {outside final : σ}
    (answers : Answers source outside fetches final) (journal : List Event) :
    (pages planId now source stats).run ⟨store, journal, outside⟩ =
      (result, ⟨last, events.reverse ++ journal, final⟩) := by
  induction h generalizing outside journal with
  | unanswered =>
    rw [BotOps.Billing.run_pages, answers.singleton]
    rfl
  | unhandled handled =>
    rw [BotOps.Billing.run_pages, answers.singleton]
    dsimp only
    rw [handled]
    rfl
  | short handled size =>
    rw [BotOps.Billing.run_pages, answers.singleton]
    dsimp only
    rw [handled]
    exact if_pos size
  | stuck handled size still =>
    rw [BotOps.Billing.run_pages, answers.singleton]
    dsimp only
    rw [handled]
    dsimp only
    rw [if_neg (Nat.not_lt.mpr size), if_neg (UInt64.not_lt.mpr still)]
    rfl
  | more handled size grows _ ih =>
    cases answers with
    | cons first later =>
    rw [run_pages_more planId now source first handled size grows, ih later]
    simp

/-- Going through all purchases is going through the pages, with a report behind a success. -/
theorem run_reconcile (setting : Setting σ) :
    (reconcile planId now source).run setting =
      match (pages planId now source .start).run setting with
      | (.ok stats, final) =>
        (.ok stats, { final with journal := .reconciled stats :: final.journal })
      | (.error failure, final) => (.error failure, final) := by
  unfold reconcile
  rw [run_bind]
  rcases (pages planId now source .start).run setting with ⟨failure | stats, final⟩ <;> rfl

/-- The events behind those of the pages: a success is reported. -/
def closing : Except Failure Stats → List Event
  | .ok stats => [.reconciled stats]
  | .error _ => []

/-- Every reconciliation follows from its fetches: the source gives their answers, nothing else is
reported, and keeping the fetches changes nothing. -/
theorem exists_paged_reconcile (setting : Setting σ) :
    ∃ fetches events,
      Paged planId now .start setting.store fetches
        ((reconcile planId now source).run setting).1
        ((reconcile planId now source).run setting).2.store events ∧
      Answers source setting.outside fetches
        ((reconcile planId now source).run setting).2.outside ∧
      ((reconcile planId now source).run setting).2.journal =
        (events ++ closing ((reconcile planId now source).run setting).1).reverse ++
          setting.journal ∧
      ∀ before, (reconcile planId now source.recorded).run (watched setting before) =
        (((reconcile planId now source).run setting).1,
          watched ((reconcile planId now source).run setting).2 (before ++ fetches)) := by
  obtain ⟨fetches, events, hpaged, hanswers, hjournal, hkept⟩ :=
    exists_paged planId now source .start setting
  refine ⟨fetches, events, ?_⟩
  simp only [run_reconcile, hkept]
  generalize (pages planId now source .start).run setting = run at hpaged hanswers hjournal ⊢
  rcases run with ⟨failure | stats, final⟩
  · exact ⟨hpaged, hanswers, by simpa [closing] using hjournal, fun before ↦ rfl⟩
  · exact ⟨hpaged, hanswers, by simpa [closing] using hjournal, fun before ↦ rfl⟩

end

section

variable {planId : String} {now : Instant}

/-- Where credits are accepted the store does not fail: an error of the store is one that the source
gave. -/
theorem Paged.mem_of_persistence {stats : Stats} {store last : Store} {fetches : List Fetch}
    {result : Except Failure Stats} {events : List Event} {error : StoreError}
    (h : Paged planId now stats store fetches result last events) (haccepts : AcceptsCredits store)
    (hresult : result = .error (.persistence error)) :
    ∃ fetch ∈ fetches, fetch.answer = .error (.persistence error) := by
  have hpage {stats : Stats} {store changed : Store} {page : List Entitlement}
      {result : Except Failure Stats} {events : List Event} (haccepts : AcceptsCredits store)
      (handled : pageOutcome planId now stats store page = (result, changed, events)) :
      AcceptsCredits changed ∧ ∀ error, result ≠ .error (.persistence error) := by
    obtain ⟨hchanged, hfailure⟩ :=
      outcomes_accepted planId now haccepts { stats with pages := stats.pages + 1 } page
    obtain ⟨rfl, rfl, -⟩ := handled
    exact ⟨hchanged, hfailure⟩
  induction h with
  | @unanswered stats store failure =>
    exact ⟨_, List.mem_cons_self, congrArg Except.error (Except.error.inj hresult)⟩
  | unhandled handled => exact absurd hresult ((hpage haccepts handled).2 error)
  | short => cases hresult
  | stuck => cases hresult
  | more handled _ _ _ ih =>
    obtain ⟨fetch, hfetch, hanswer⟩ := ih (hpage haccepts handled).1 hresult
    exact ⟨fetch, List.mem_cons_of_mem _ hfetch, hanswer⟩

/-- A run changes at most the credits, whether or not it fails. -/
theorem Paged.frame {stats : Stats} {store last : Store} {fetches : List Fetch}
    {result : Except Failure Stats} {events : List Event}
    (h : Paged planId now stats store fetches result last events) :
    ∃ credits, last = { store with credits } := by
  have hpage {stats : Stats} {store changed : Store} {page : List Entitlement}
      {result : Except Failure Stats} {events : List Event}
      (handled : pageOutcome planId now stats store page = (result, changed, events)) :
      ∃ credits, changed = { store with credits } := by
    obtain ⟨credits, hcredits⟩ :=
      outcomes_frame planId now { stats with pages := stats.pages + 1 } store page
    exact ⟨credits, (congrArg (·.2.1) handled).symm.trans hcredits⟩
  induction h with
  | @unanswered _ store => exact ⟨store.credits, rfl⟩
  | unhandled handled => exact hpage handled
  | short handled => exact hpage handled
  | stuck handled => exact hpage handled
  | more handled _ _ _ ih =>
    obtain ⟨first, rfl⟩ := hpage handled
    obtain ⟨credits, rfl⟩ := ih
    exact ⟨credits, rfl⟩

/-- A reconciliation changes at most the credits, whether or not it fails. -/
theorem reconcile_frame {σ : Type} (planId : String) (now : Instant) (source : Source σ)
    (setting : Setting σ) :
    ∃ credits, ((reconcile planId now source).run setting).2.store =
      { setting.store with credits } := by
  obtain ⟨fetches, events, hpaged, -⟩ := exists_paged_reconcile planId now source setting
  exact hpaged.frame

/-- An event that is about the pages and not about a purchase. -/
def isPaging : Event → Bool
  | .pageFetched .. => true
  | .reconciled _ => true
  | _ => false

/-- An event that is about a purchase: a bound that cannot be read, or a subscription. -/
def isAboutPurchase : Event → Bool
  | .badTimestamp .. => true
  | .subscription .. => true
  | _ => false

private theorem isPaging_of_isAboutPurchase {event : Event} (h : isAboutPurchase event = true) :
    isPaging event = false := by
  cases event <;> first | rfl | cases h

private theorem isJobFailure_of_isAboutPurchase {event : Event} (h : isAboutPurchase event = true) :
    event.isJobFailure = false := by
  cases event <;> first | rfl | cases h

private theorem isAboutPurchase_of_mem_told {entitlement : Entitlement} {event : Event}
    (h : event ∈ entitlement.told now) : isAboutPurchase event = true := by
  have hbound (field : String) (raw : Option String) :
      ∀ event ∈ (readBound field raw).2, isAboutPurchase event = true := by
    unfold readBound
    split
    · simp
    · split <;> simp [isAboutPurchase]
  unfold Entitlement.told at h
  split at h
  · simp only [Entitlement.reports, List.append_assoc, List.mem_append, List.mem_singleton] at h
    rcases h with h | h | rfl
    · exact hbound _ _ _ h
    · exact hbound _ _ _ h
    · rfl
  · cases h

/-- What is reported while purchases are handled is about them. -/
theorem isAboutPurchase_of_mem_outcomes {stats : Stats} {store : Store} {page : List Entitlement}
    {event : Event} (h : event ∈ (outcomes planId now stats store page).2.2) :
    isAboutPurchase event = true := by
  induction page generalizing stats store with
  | nil => cases h
  | cons entitlement page ih =>
    rw [outcomes] at h
    generalize outcome planId now stats store entitlement = handled at h
    rcases handled with ⟨failure | read, changed⟩
    · exact isAboutPurchase_of_mem_told h
    · rcases List.mem_append.mp h with h | h
      · exact isAboutPurchase_of_mem_told h
      · exact ih h

/-- A run reports pages and purchases, and no failure of a job. -/
theorem Paged.quiet {stats : Stats} {store last : Store} {fetches : List Fetch}
    {result : Except Failure Stats} {events : List Event}
    (h : Paged planId now stats store fetches result last events) : Quiet events := by
  have hpage {stats : Stats} {store changed : Store} {page : List Entitlement}
      {result : Except Failure Stats} {events : List Event}
      (handled : pageOutcome planId now stats store page = (result, changed, events)) :
      Quiet events := by
    obtain ⟨-, -, rfl⟩ := handled
    refine List.forall_mem_cons.mpr ⟨rfl, fun event hevent ↦ ?_⟩
    exact isJobFailure_of_isAboutPurchase (isAboutPurchase_of_mem_outcomes hevent)
  induction h with
  | unanswered => exact List.forall_mem_nil _
  | unhandled handled => exact hpage handled
  | short handled => exact hpage handled
  | stuck handled => exact hpage handled
  | more handled _ _ _ ih => exact (hpage handled).append ih

/-- A page is reported and then its purchases are. -/
theorem pageOutcome_eq {stats read : Stats} {store changed : Store} {page : List Entitlement}
    {events : List Event}
    (h : pageOutcome planId now stats store page = (.ok read, changed, events)) :
    read.pages = stats.pages + 1 ∧
      outcomes planId now stats store page =
        (.ok { read with pages := stats.pages }, changed, events.filter (!isPaging ·)) := by
  simp only [pageOutcome, outcomes_pages, Prod.mk.injEq] at h
  obtain ⟨hread, rfl, rfl⟩ := h
  have hquiet : (outcomes planId now stats store page).2.2.filter (!isPaging ·) =
      (outcomes planId now stats store page).2.2 := by
    rw [List.filter_eq_self]
    intro event hevent
    rw [isPaging_of_isAboutPurchase (isAboutPurchase_of_mem_outcomes hevent)]
    rfl
  rw [List.filter_cons_of_neg (by simp [isPaging]), hquiet]
  -- The pages counted before the page are those counted in front of every purchase on it.
  have hbefore := outcomes_pages planId now stats store page stats.pages
  change outcomes planId now stats store page = _ at hbefore
  cases hresult : (outcomes planId now stats store page).1 with
  | error failure => rw [hresult] at hread; cases hread
  | ok result =>
    rw [hresult] at hread
    obtain rfl := Except.ok.inj hread
    refine ⟨rfl, ?_⟩
    rw [hbefore, hresult]
    rfl

/-- A successful run handles all purchases that were fetched, in order, and counts its pages. -/
theorem Paged.outcomes_eq {stats read : Stats} {store last : Store} {fetches : List Fetch}
    {events : List Event} (h : Paged planId now stats store fetches (.ok read) last events) :
    (∀ fetch ∈ fetches, ∃ page, fetch.answer = .ok page) ∧
      read.pages = stats.pages + fetches.length ∧
      outcomes planId now stats store (recordsOf fetches) =
        (.ok { read with pages := stats.pages }, last, events.filter (!isPaging ·)) := by
  generalize hresult : Except.ok read = result at h
  induction h with
  | unanswered => cases hresult
  | unhandled => cases hresult
  | stuck => cases hresult
  | @short stats store page _ changed events handled size =>
    obtain rfl := Except.ok.inj hresult
    obtain ⟨hpages, hall⟩ := pageOutcome_eq handled
    exact ⟨by simp, by simpa using hpages, by simpa [recordsOf, Fetch.records] using hall⟩
  | @more stats store page next changed events fetches result last later handled _ _ rest ih =>
    obtain ⟨hpages, hfirst⟩ := pageOutcome_eq handled
    obtain ⟨hanswers, hcount, hrest⟩ := ih hresult
    refine ⟨?_, by rw [hcount, hpages, List.length_cons]; omega, ?_⟩
    · intro fetch hfetch
      rcases List.mem_cons.mp hfetch with rfl | hfetch
      · exact ⟨page, rfl⟩
      · exact hanswers fetch hfetch
    · have hrecords : recordsOf (⟨stats.lastId, .ok page⟩ :: fetches) = page ++ recordsOf fetches :=
        rfl
      rw [hrecords, outcomes_append planId now hfirst, outcomes_pages, hrest, List.filter_append]
      rfl

end

end BotOps.Billing
