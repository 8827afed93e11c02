import BotOps.Proofs.Billing.Paging
import BotOps.Proofs.Store.Rollback
import Mathlib.Data.List.Perm.Subperm

/-!
# Where a run stops

The platform may answer as it likes, also in view of all that it was asked before. A run still ends:
it asks for growing cursors, each of them read off the last purchase of a full page, and it stops at
the first fetch that fails, the first purchase that cannot be handled, the first page that is not
full or the first full page that ends no later than it begins: `reconcile_stops`.
-/

namespace BotOps.Billing

open BotOps.Store BotOps.Time

/-- One fetch leads to another: it brought a full page, and the other one asks for what is behind
the last purchase on it, whatever its kind. -/
def Fetch.LeadsTo (fetch next : Fetch) : Prop :=
  ∃ page last, fetch.answer = .ok page ∧ pageSize ≤ page.length ∧ page.getLast? = some last ∧
    cursor? last.id = some next.after

section

variable (planId : String) (now : Instant)

/-- Purchases are handled in turn, from one store to another: each has a number as its identifier,
and the credits that they earn are put into the store. -/
inductive Handled : Store → List Entitlement → Store → Prop where
  | nil (store : Store) : Handled store [] store
  /-- The purchase earns no credit. -/
  | skip {store last record rest} (number : (cursor? record.id).isSome)
      (idle : record.credit? planId now = none) (later : Handled store rest last) :
      Handled store (record :: rest) last
  /-- The credit of the purchase is kept. -/
  | keep {store middle last record rest credit upsert} (number : (cursor? record.id).isSome)
      (earned : record.credit? planId now = some credit)
      (kept : (upsertCredit credit now.stored).run store = (.ok upsert, middle))
      (later : Handled middle rest last) : Handled store (record :: rest) last

/-- A purchase cannot be handled in a store, for a reason. -/
inductive Refused (store : Store) (record : Entitlement) : Failure → Prop where
  /-- The identifier of the purchase is no number. -/
  | unnumbered (number : cursor? record.id = none) :
      Refused store record (.service (.badIdentifier record.id))
  /-- The credit of the purchase cannot be kept. -/
  | unkept {credit error} (number : (cursor? record.id).isSome)
      (earned : record.credit? planId now = some credit)
      (failed : (upsertCredit credit now.stored).run store = (.error error, store)) :
      Refused store record (.persistence error)

/-- How a run ends with a fetch, and what it then leaves behind. -/
inductive Ends (store : Store) (fetch : Fetch) : Except Failure Stats → Store → Prop where
  /-- The fetch fails. -/
  | unanswered {failure} (answer : fetch.answer = .error failure) :
      Ends store fetch (.error failure) store
  /-- The purchases before one are handled, and this one cannot be. -/
  | refused {done record rest failure last} (answer : fetch.answer = .ok (done ++ record :: rest))
      (handled : Handled planId now store done last)
      (refused : Refused planId now last record failure) : Ends store fetch (.error failure) last
  /-- The page is handled and not full. -/
  | short {page last stats} (answer : fetch.answer = .ok page)
      (handled : Handled planId now store page last) (size : page.length < pageSize) :
      Ends store fetch (.ok stats) last
  /-- The page is handled and full and ends no later than it begins. -/
  | still {page record id last} (answer : fetch.answer = .ok page)
      (handled : Handled planId now store page last) (size : pageSize ≤ page.length)
      (final : page.getLast? = some record) (number : cursor? record.id = some id)
      (behind : id ≤ fetch.after) :
      Ends store fetch (.error (.service (.noProgress fetch.after))) last

end

section

variable {planId : String} {now : Instant}

namespace Handled

/-- Purchases that are handled behind others are handled with them. -/
theorem append {store middle last : Store} {first second : List Entitlement}
    (hfirst : Handled planId now store first middle)
    (hsecond : Handled planId now middle second last) :
    Handled planId now store (first ++ second) last := by
  induction hfirst with
  | nil => exact hsecond
  | skip number idle _ ih => exact .skip number idle (ih hsecond)
  | keep number earned kept _ ih => exact .keep number earned kept (ih hsecond)

/-- While purchases are handled nothing is told but what belongs to each of them. -/
theorem outcomes_eq {store last : Store} {records : List Entitlement}
    (h : Handled planId now store records last) (stats : Stats) :
    ∃ read, outcomes planId now stats store records =
      (.ok read, last, records.flatMap (Entitlement.told now)) := by
  induction h generalizing stats with
  | nil => exact ⟨stats, rfl⟩
  | @skip store last record rest number idle _ ih =>
    obtain ⟨id, hid⟩ := Option.isSome_iff_exists.mp number
    obtain ⟨read, hrest⟩ := ih (stats.noted record id none)
    refine ⟨read, ?_⟩
    simp only [outcomes, outcome, hid, idle, hrest, List.flatMap_cons]
  | @keep store middle last record rest credit upsert number earned kept _ ih =>
    obtain ⟨id, hid⟩ := Option.isSome_iff_exists.mp number
    obtain ⟨read, hrest⟩ := ih (stats.noted record id (some upsert))
    refine ⟨read, ?_⟩
    simp only [outcomes, outcome, hid, earned, kept, hrest, List.flatMap_cons]

/-- A purchase behind others that were handled is not handled if it is refused. -/
theorem not_refused {store middle last : Store} {done rest : List Entitlement}
    {record : Entitlement} {failure : Failure}
    (hall : Handled planId now store (done ++ record :: rest) last)
    (hdone : Handled planId now store done middle) :
    ¬ Refused planId now middle record failure := by
  intro hrefused
  induction hdone with
  | nil store =>
    cases hall with
    | skip number idle =>
      cases hrefused with
      | unnumbered hnumber => simp [hnumber] at number
      | unkept _ earned => simp [idle] at earned
    | keep number earned kept =>
      cases hrefused with
      | unnumbered hnumber => simp [hnumber] at number
      | unkept _ earned' failed =>
        obtain rfl := Option.some.inj (earned.symm.trans earned')
        exact absurd (Prod.mk.inj (kept.symm.trans failed)).1 (by simp)
  | skip number idle _ ih =>
    cases hall with
    | skip _ _ later => exact ih later hrefused
    | keep _ earned => simp [idle] at earned
  | keep number earned kept _ ih =>
    cases hall with
    | skip _ idle => simp [idle] at earned
    | keep _ earned' kept' later =>
      obtain rfl := Option.some.inj (earned.symm.trans earned')
      obtain rfl := (Prod.mk.inj (kept.symm.trans kept')).2
      exact ih later hrefused

end Handled

/-- A purchase that is refused is the last one of which anything is told. -/
theorem Refused.outcomes_eq {store : Store} {record : Entitlement} {failure : Failure}
    (h : Refused planId now store record failure) (stats : Stats) (rest : List Entitlement) :
    outcomes planId now stats store (record :: rest) =
      (.error failure, store, record.told now) := by
  cases h with
  | unnumbered number => simp only [outcomes, outcome, number]
  | unkept number earned failed =>
    obtain ⟨id, hid⟩ := Option.isSome_iff_exists.mp number
    simp only [outcomes, outcome, hid, earned, failed]

/-- A purchase is handled or refused as `outcome` says. -/
theorem outcome_cases (stats : Stats) (store : Store) (record : Entitlement) :
    (∃ read changed, outcome planId now stats store record = (.ok read, changed) ∧
        ∀ rest last, Handled planId now changed rest last →
          Handled planId now store (record :: rest) last) ∨
      ∃ failure, outcome planId now stats store record = (.error failure, store) ∧
        Refused planId now store record failure := by
  unfold outcome
  cases hnumber : cursor? record.id with
  | none => exact .inr ⟨_, rfl, .unnumbered hnumber⟩
  | some id =>
    have hsome : (cursor? record.id).isSome := by rw [hnumber]; rfl
    dsimp only
    cases hcredit : record.credit? planId now with
    | none => exact .inl ⟨_, _, rfl, fun rest last later ↦ .skip hsome hcredit later⟩
    | some credit =>
      dsimp only
      cases hrun : (upsertCredit credit now.stored).run store with
      | mk result changed =>
      cases result with
      | ok upsert => exact .inl ⟨_, _, rfl, fun rest last later ↦ .keep hsome hcredit hrun later⟩
      | error error =>
        obtain rfl : changed = store := allOrNothing_transaction _ _ _ _ hrun
        exact .inr ⟨_, rfl, .unkept hsome hcredit hrun⟩

/-- Purchases are all handled, or the first ones are and the next one is refused. -/
theorem outcomes_cases (stats : Stats) (store : Store) (page : List Entitlement) :
    (∃ read last events, outcomes planId now stats store page = (.ok read, last, events) ∧
        Handled planId now store page last) ∨
      ∃ done record rest failure last events,
        outcomes planId now stats store page = (.error failure, last, events) ∧
          page = done ++ record :: rest ∧ Handled planId now store done last ∧
            Refused planId now last record failure := by
  induction page generalizing stats store with
  | nil => exact .inl ⟨stats, store, [], rfl, .nil store⟩
  | cons record page ih =>
    rw [outcomes]
    rcases outcome_cases stats store record with
      ⟨next, changed, hfirst, hextend⟩ | ⟨failure, hfirst, hrefused⟩
    · rw [hfirst]
      dsimp only
      rcases ih next changed with ⟨read, last, events, hrest, hhandled⟩ |
        ⟨done, refused, rest, failure, last, events, hrest, rfl, hdone, hrefused⟩
      · rw [hrest]
        exact .inl ⟨read, last, _, rfl, hextend page last hhandled⟩
      · rw [hrest]
        exact .inr ⟨record :: done, refused, rest, failure, last, _, rfl, rfl,
          hextend done last hdone, hrefused⟩
    · rw [hfirst]
      exact .inr ⟨[], record, page, failure, store, _, rfl, rfl, .nil store, hrefused⟩

/-- A page that is handled is handled purchase by purchase, and its last purchase gives the
cursor. -/
theorem pageOutcome_ok {stats read : Stats} {store changed : Store} {page : List Entitlement}
    {events : List Event}
    (h : pageOutcome planId now stats store page = (.ok read, changed, events)) :
    Handled planId now store page changed ∧
      ∀ last ∈ page.getLast?, cursor? last.id = some read.lastId := by
  obtain ⟨-, houtcomes⟩ := pageOutcome_eq h
  refine ⟨?_, (outcomes_read planId now houtcomes).2⟩
  rcases outcomes_cases stats store page with ⟨_, last, _, hall, hhandled⟩ |
    ⟨_, _, _, failure, _, _, hall, -⟩
  · obtain ⟨-, hrest⟩ := Prod.mk.inj (hall.symm.trans houtcomes)
    obtain ⟨rfl, -⟩ := Prod.mk.inj hrest
    exact hhandled
  · cases (Prod.mk.inj (hall.symm.trans houtcomes)).1

/-- A page that cannot be handled holds a first purchase that is refused. -/
theorem pageOutcome_error {stats : Stats} {store changed : Store} {page : List Entitlement}
    {failure : Failure} {events : List Event}
    (h : pageOutcome planId now stats store page = (.error failure, changed, events)) :
    ∃ done record rest, page = done ++ record :: rest ∧ Handled planId now store done changed ∧
      Refused planId now changed record failure := by
  obtain ⟨hresult, hrest⟩ := Prod.mk.inj h
  obtain ⟨hlast, -⟩ := Prod.mk.inj hrest
  rcases outcomes_cases { stats with pages := stats.pages + 1 } store page with
    ⟨read, _, _, hall, -⟩ | ⟨done, record, rest, cause, last, _, hall, hpage, hdone, hrefused⟩
  · rw [hall] at hresult
    cases hresult
  · rw [hall] at hresult hlast
    obtain rfl := Except.error.inj hresult
    obtain rfl : last = changed := hlast
    exact ⟨done, record, rest, hpage, hdone, hrefused⟩

/-- A full page has a last purchase. -/
theorem exists_getLast?_of_full {page : List Entitlement} (size : pageSize ≤ page.length) :
    ∃ last, page.getLast? = some last := by
  have hne : page ≠ [] := by
    rintro rfl
    exact absurd size (by decide)
  exact ⟨page.getLast hne, List.getLast?_eq_some_getLast hne⟩

/-- A run handles the pages of all its fetches but the last, and ends with that one. -/
theorem Paged.ends {stats : Stats} {store last : Store} {fetches : List Fetch}
    {result : Except Failure Stats} {events : List Event}
    (h : Paged planId now stats store fetches result last events) :
    ∃ front final middle, fetches = front ++ [final] ∧
      Handled planId now store (recordsOf front) middle ∧
        Ends planId now middle final result last := by
  induction h with
  | @unanswered stats store failure => exact ⟨[], _, store, rfl, .nil store, .unanswered rfl⟩
  | @unhandled stats store page failure changed events handled =>
    obtain ⟨done, record, rest, rfl, hdone, hrefused⟩ := pageOutcome_error handled
    exact ⟨[], _, store, rfl, .nil store, .refused rfl hdone hrefused⟩
  | @short stats store page read changed events handled size =>
    exact ⟨[], _, store, rfl, .nil store, .short rfl (pageOutcome_ok handled).1 size⟩
  | @stuck stats store page read changed events handled size still =>
    obtain ⟨hhandled, hcursor⟩ := pageOutcome_ok handled
    obtain ⟨record, hrecord⟩ := exists_getLast?_of_full size
    exact ⟨[], _, store, rfl, .nil store,
      .still rfl hhandled size hrecord (hcursor record hrecord) still⟩
  | @more stats store page read changed events fetches result last later handled _ _ _ ih =>
    obtain ⟨front, final, middle, rfl, hfront, hends⟩ := ih
    exact ⟨⟨stats.lastId, .ok page⟩ :: front, final, middle, rfl,
      (pageOutcome_ok handled).1.append hfront, hends⟩

/-- The fetches of a run begin at its cursor, and each leads to the next and to a greater cursor. -/
theorem Paged.cursors {stats : Stats} {store last : Store} {fetches : List Fetch}
    {result : Except Failure Stats} {events : List Event}
    (h : Paged planId now stats store fetches result last events) :
    (fetches.map Fetch.after).head? = some stats.lastId ∧
      (fetches.map Fetch.after).Pairwise (· < ·) ∧ fetches.IsChain Fetch.LeadsTo := by
  induction h with
  | unanswered => exact ⟨rfl, List.pairwise_singleton .., .singleton _⟩
  | unhandled => exact ⟨rfl, List.pairwise_singleton .., .singleton _⟩
  | short => exact ⟨rfl, List.pairwise_singleton .., .singleton _⟩
  | stuck => exact ⟨rfl, List.pairwise_singleton .., .singleton _⟩
  | @more stats store page read changed events fetches result last later handled size grows _ ih =>
    obtain ⟨hhead, hpairwise, hchain⟩ := ih
    cases fetches with
    | nil => cases hhead
    | cons next rest =>
      obtain hnext : next.after = read.lastId := Option.some.inj hhead
      refine ⟨rfl, ?_, .cons_cons ?_ hchain⟩
      · rw [List.map_cons, List.pairwise_cons]
        refine ⟨fun cursor hcursor ↦ ?_, hpairwise⟩
        rw [List.map_cons, List.mem_cons] at hcursor
        rcases hcursor with rfl | hcursor
        · exact hnext ▸ grows
        · have hlater := (List.pairwise_cons.mp hpairwise).1 cursor hcursor
          exact UInt64.lt_trans (hnext ▸ grows) hlater
      · obtain ⟨record, hrecord⟩ := exists_getLast?_of_full size
        exact ⟨page, record, rfl, size, hrecord,
          hnext ▸ (pageOutcome_ok handled).2 record hrecord⟩

/-- There are only so many growing cursors. -/
theorem length_le_of_pairwise {cursors : List UInt64} (h : cursors.Pairwise (· < ·)) :
    cursors.length ≤ UInt64.size := by
  have hnodup : (cursors.map UInt64.toNat).Nodup := by
    rw [List.Nodup, List.pairwise_map]
    exact h.imp fun hlt ↦ Nat.ne_of_lt (UInt64.lt_iff_toNat_lt.mp hlt)
  have hsubset : cursors.map UInt64.toNat ⊆ List.range UInt64.size := by
    intro n hn
    obtain ⟨cursor, -, rfl⟩ := List.mem_map.mp hn
    exact List.mem_range.mpr cursor.toNat_lt
  have hle := (hnodup.subperm hsubset).length_le
  rwa [List.length_map, List.length_range] at hle

namespace Ends

variable {store last : Store} {fetch : Fetch} {result : Except Failure Stats}
  {page : List Entitlement}

/-- A run succeeds exactly where its last page is handled and not full. -/
theorem exists_ok_iff (h : Ends planId now store fetch result last) :
    (∃ stats, result = .ok stats) ↔
      ∃ page, fetch.answer = .ok page ∧ Handled planId now store page last ∧
        page.length < pageSize := by
  constructor
  · rintro ⟨stats, rfl⟩
    cases h with
    | short answer handled size => exact ⟨_, answer, handled, size⟩
  · rintro ⟨page, hanswer, hhandled, hsize⟩
    cases h with
    | unanswered answer => cases hanswer.symm.trans answer
    | refused answer handled refused =>
      obtain rfl := Except.ok.inj (hanswer.symm.trans answer)
      exact absurd refused (hhandled.not_refused handled)
    | short => exact ⟨_, rfl⟩
    | still answer _ size =>
      obtain rfl := Except.ok.inj (hanswer.symm.trans answer)
      exact absurd hsize (Nat.not_lt.mpr size)

/-- A run whose last fetch is answered makes no progress exactly where the page is handled and full
and ends no later than it begins. -/
theorem noProgress_iff (h : Ends planId now store fetch result last)
    (answer : fetch.answer = .ok page) :
    result = .error (.service (.noProgress fetch.after)) ↔
      Handled planId now store page last ∧ pageSize ≤ page.length ∧
        ∃ record ∈ page.getLast?, ∃ id ∈ cursor? record.id, id ≤ fetch.after := by
  constructor
  · intro hresult
    cases h with
    | unanswered answer' => cases answer.symm.trans answer'
    | refused _ _ refused => cases refused <;> cases hresult
    | short => cases hresult
    | still answer' handled size final number behind =>
      obtain rfl := Except.ok.inj (answer.symm.trans answer')
      exact ⟨handled, size, _, final, _, number, behind⟩
  · rintro ⟨hhandled, hsize, -⟩
    cases h with
    | unanswered answer' => cases answer.symm.trans answer'
    | refused answer' handled refused =>
      obtain rfl := Except.ok.inj (answer.symm.trans answer')
      exact absurd refused (hhandled.not_refused handled)
    | short answer' _ size =>
      obtain rfl := Except.ok.inj (answer.symm.trans answer')
      exact absurd size (Nat.not_lt.mpr hsize)
    | still => rfl

/-- A run fails because its last fetch does, because of what the platform answers or because of the
store. -/
theorem failure_cases {failure : Failure}
    (h : Ends planId now store fetch (.error failure) last) :
    fetch.answer = .error failure ∨ (∃ problem, failure = .service problem) ∨
      ∃ error, failure = .persistence error := by
  cases h with
  | unanswered answer => exact .inl answer
  | refused _ _ refused =>
    cases refused with
    | unnumbered => exact .inr (.inl ⟨_, rfl⟩)
    | unkept => exact .inr (.inr ⟨_, rfl⟩)
  | still => exact .inr (.inl ⟨_, rfl⟩)

end Ends

/-- A reconciliation that fails does so because the source fails somewhere, because of what it
answers or because of the store. -/
theorem reconcile_failure {σ : Type} {source : Source σ} {setting : Setting σ} {failure : Failure}
    (h : ((reconcile planId now source).run setting).1 = .error failure) :
    (∃ after before, ((source after).run before).1 = .error failure) ∨
      (∃ problem, failure = .service problem) ∨ ∃ error, failure = .persistence error := by
  obtain ⟨fetches, events, hpaged, hanswers, -⟩ :=
    exists_paged_reconcile planId now source setting
  obtain ⟨front, final, middle, rfl, -, hends⟩ := hpaged.ends
  rw [h] at hends
  rcases hends.failure_cases with hanswer | hother
  · obtain ⟨before, hrun⟩ := hanswers.exists_run source (List.mem_append_right _ List.mem_cons_self)
    exact .inl ⟨final.after, before, hrun.trans hanswer⟩
  · exact .inr hother

end

/-- Whatever the platform answers, a run ends. Its fetches ask for growing cursors, from 0 on, each
of them the number of the last purchase of the full page before it, so that there are finitely many
and none is repeated. The pages of all but the last fetch are handled, and the run ends with the
last one as `Ends` says: with a success exactly where its page is handled and not full, and, if it
is answered, for want of progress exactly where its page is handled and full and ends no later than
it begins. Here the fetches are those that `Source.recorded` keeps during the run. -/
theorem reconcile_stops {σ : Type} (planId : String) (now : Instant) (source : Source σ)
    (setting : Setting σ) :
    let run := (reconcile planId now source).run setting
    ∃ front final middle,
      (reconcile planId now source.recorded).run (watched setting []) =
        (run.1, watched run.2 (front ++ [final])) ∧
      Answers source setting.outside (front ++ [final]) run.2.outside ∧
      ((front ++ [final]).map Fetch.after).head? = some 0 ∧
      ((front ++ [final]).map Fetch.after).Pairwise (· < ·) ∧
      (front ++ [final]).length ≤ UInt64.size ∧
      (front ++ [final]).IsChain Fetch.LeadsTo ∧
      Handled planId now setting.store (recordsOf front) middle ∧
      Ends planId now middle final run.1 run.2.store ∧
      ((∃ stats, run.1 = .ok stats) ↔
        ∃ page, final.answer = .ok page ∧ Handled planId now middle page run.2.store ∧
          page.length < pageSize) ∧
      ∀ page, final.answer = .ok page →
        (run.1 = .error (.service (.noProgress final.after)) ↔
          Handled planId now middle page run.2.store ∧ pageSize ≤ page.length ∧
            ∃ record ∈ page.getLast?, ∃ id ∈ cursor? record.id, id ≤ final.after) := by
  intro run
  obtain ⟨fetches, events, hpaged, hanswers, -, hkept⟩ :=
    exists_paged_reconcile planId now source setting
  obtain ⟨hhead, hpairwise, hchain⟩ := hpaged.cursors
  obtain ⟨front, final, middle, rfl, hfront, hends⟩ := hpaged.ends
  have hlength : (front ++ [final]).length ≤ UInt64.size := by
    have hle := length_le_of_pairwise hpairwise
    rwa [List.length_map] at hle
  exact ⟨front, final, middle, hkept [], hanswers, hhead, hpairwise, hlength, hchain, hfront, hends,
    hends.exists_ok_iff, fun page answer ↦ hends.noProgress_iff answer⟩

end BotOps.Billing
