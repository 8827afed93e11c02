import BotOps.Proofs.Billing.Cursor
import BotOps.Proofs.Billing.Paging
import Mathlib.Data.List.Nodup

/-!
# Going through a catalogue

A catalogue is what the platform has to tell when nothing goes wrong: entitlements with numbers as
identifiers, no two of them with the same one. Where the source serves the pages of a catalogue a
run goes through all of it, in ascending order, and meets nothing twice: `Paged.read_catalogue`. The
run has handled the purchases up to its cursor and has those behind it still before it.
-/

namespace BotOps.Billing

open BotOps.Store BotOps.Text BotOps.Time

/-- The number that the identifier of a purchase writes. -/
def Entitlement.number (entitlement : Entitlement) : Nat := Decimal.value entitlement.id.toList

/-- The identifier of a purchase is a decimal number from 1 to the greatest one of 64 bits. -/
structure Entitlement.IsNumbered (entitlement : Entitlement) : Prop where
  isDigits : entitlement.id.toList.all Char.isDigit
  pos : 0 < entitlement.number
  lt : entitlement.number < UInt64.size

instance (entitlement : Entitlement) : Decidable entitlement.IsNumbered :=
  decidable_of_iff (entitlement.id.toList.all Char.isDigit ∧ 0 < entitlement.number ∧
    entitlement.number < UInt64.size) ⟨fun h ↦ ⟨h.1, h.2.1, h.2.2⟩, fun h ↦ ⟨h.1, h.2, h.3⟩⟩

/-- All purchases that the platform knows, in any order. -/
structure Catalogue where
  members : List Entitlement
  isNumbered : ∀ member ∈ members, member.IsNumbered
  distinct : (members.map Entitlement.number).Nodup

/-- The number of the last one of some purchases, or 0 if there is none. -/
def lastNumber (records : List Entitlement) : Nat :=
  (records.getLast?.map Entitlement.number).getD 0

private theorem lastNumber_concat (records : List Entitlement) (last : Entitlement) :
    lastNumber (records ++ [last]) = last.number := by
  rw [lastNumber, List.getLast?_concat]
  rfl

namespace Catalogue

/-- The purchases in the order of their numbers. -/
def ascending (catalogue : Catalogue) : List Entitlement :=
  catalogue.members.mergeSort fun a b ↦ a.number ≤ b.number

/-- The page behind a cursor: the next purchases in the order of their numbers, as many as a page
holds. -/
def page (catalogue : Catalogue) (after : UInt64) : List Entitlement :=
  (catalogue.ascending.filter fun member ↦ after.toNat < member.number).take pageSize

/-- A source answers each cursor with the page behind it, at any time. -/
def ServedBy {σ : Type} (catalogue : Catalogue) (source : Source σ) : Prop :=
  ∀ after outside, ((source after).run outside).1 = .ok (catalogue.page after)

end Catalogue

/-- The cursor behind a numbered purchase is its number. -/
theorem cursor?_eq_number {entitlement : Entitlement} (h : entitlement.IsNumbered) :
    cursor? entitlement.id = some (UInt64.ofNat entitlement.number) := by
  have hpos := h.pos
  unfold Entitlement.number at hpos
  have hne : entitlement.id.toList ≠ [] := by
    intro hnil
    rw [hnil] at hpos
    exact absurd hpos (by decide)
  have hvalue := Decimal.value_eq_ofDigits entitlement.id.toList
  rw [cursor?_eq_some_iff, UInt64.toNat_ofNat_of_lt' h.lt]
  exact ⟨[], [], entitlement.id.toList, [], by simp, by simp, .inl rfl, hne,
    List.all_eq_true.mp h.isDigits, hvalue.symm, by simp⟩

namespace Catalogue

section

variable (catalogue : Catalogue)

private theorem perm_ascending :
    catalogue.ascending.Perm catalogue.members := List.mergeSort_perm _ _

/-- In ascending order each purchase has a greater number than the one before it. -/
theorem pairwise_ascending :
    catalogue.ascending.Pairwise fun a b ↦ a.number < b.number := by
  have hle : catalogue.ascending.Pairwise fun a b ↦ a.number ≤ b.number := by
    have h : catalogue.ascending.Pairwise fun a b ↦ decide (a.number ≤ b.number) = true :=
      List.pairwise_mergeSort (fun a b c ↦ by simpa using Nat.le_trans)
        (fun a b ↦ by simpa using Nat.le_total a.number b.number) catalogue.members
    simpa only [decide_eq_true_eq] using h
  have hne : catalogue.ascending.Pairwise fun a b ↦ a.number ≠ b.number :=
    List.pairwise_map.mp
      ((catalogue.perm_ascending.map Entitlement.number).nodup_iff.mpr catalogue.distinct)
  exact hle.imp₂ (fun a b hle hne ↦ Nat.lt_of_le_of_ne hle hne) hne

/-- There is only one ascending order. -/
theorem ascending_eq {records : List Entitlement} (hperm : records.Perm catalogue.members)
    (hsorted : records.Pairwise fun a b ↦ a.number < b.number) : catalogue.ascending = records :=
  List.Perm.eq_of_pairwise (fun _ _ _ _ hab hba ↦ absurd hba (Nat.lt_asymm hab))
    catalogue.pairwise_ascending hsorted (catalogue.perm_ascending.trans hperm.symm)

private theorem isNumbered_of_mem_ascending {member : Entitlement}
    (h : member ∈ catalogue.ascending) :
    member.IsNumbered :=
  catalogue.isNumbered member (catalogue.perm_ascending.mem_iff.mp h)

end

section

variable {catalogue : Catalogue} {front back : List Entitlement}

/-- The purchases behind the number of the last one of the first are the others. -/
theorem filter_ascending (hsplit : catalogue.ascending = front ++ back) :
    (catalogue.ascending.filter fun member ↦ lastNumber front < member.number) = back := by
  have hsorted := catalogue.pairwise_ascending
  rw [hsplit, List.pairwise_append] at hsorted
  obtain ⟨hfront, -, hacross⟩ := hsorted
  have hback : ∀ member ∈ back, lastNumber front < member.number := by
    intro member hmember
    unfold lastNumber
    cases hlast : front.getLast? with
    | none => exact (catalogue.isNumbered_of_mem_ascending (by simp [hsplit, hmember])).pos
    | some last => exact hacross last (List.mem_of_getLast? hlast) member hmember
  have hbefore : ∀ member ∈ front, ¬ lastNumber front < member.number := by
    intro member hmember
    obtain ⟨first, last, rfl⟩ :=
      (List.eq_nil_or_concat front).resolve_left (List.ne_nil_of_mem hmember)
    rw [List.concat_eq_append] at hfront hmember ⊢
    rw [lastNumber_concat, Nat.not_lt]
    rcases List.mem_append.mp hmember with hmember | hmember
    · exact Nat.le_of_lt ((List.pairwise_append.mp hfront).2.2 member hmember last (by simp))
    · obtain rfl := List.mem_singleton.mp hmember
      exact Nat.le_refl _
  rw [hsplit, List.filter_append, List.filter_eq_nil_iff.mpr (by simpa using hbefore),
    List.filter_eq_self.mpr (by simpa using hback), List.nil_append]

/-- A page behind the first purchases has the next ones. -/
theorem page_eq_take (hsplit : catalogue.ascending = front ++ back) {after : UInt64}
    (hafter : after.toNat = lastNumber front) : catalogue.page after = back.take pageSize := by
  rw [page, hafter, filter_ascending hsplit]

/-- The purchases behind the first ones have greater numbers than the last one of these. -/
theorem lastNumber_lt (hsplit : catalogue.ascending = front ++ back) {member : Entitlement}
    (hmember : member ∈ back) : lastNumber front < member.number := by
  rw [← filter_ascending hsplit] at hmember
  simpa using (List.mem_filter.mp hmember).2

/-- The number of the last purchase is the greatest one. -/
theorem lastNumber_ascending (catalogue : Catalogue) :
    lastNumber catalogue.ascending =
      (catalogue.members.map Entitlement.number).max?.getD 0 := by
  cases hlast : catalogue.ascending.getLast? with
  | none =>
    have hnil := List.getLast?_eq_none_iff.mp hlast
    have hmembers : catalogue.members = [] := by
      simpa [hnil] using catalogue.perm_ascending.symm
    rw [lastNumber, hlast, hmembers]
    rfl
  | some last =>
    have hmax : (catalogue.members.map Entitlement.number).max? = some last.number := by
      rw [List.max?_eq_some_iff]
      constructor
      · exact List.mem_map_of_mem
          (catalogue.perm_ascending.mem_iff.mp (List.mem_of_getLast? hlast))
      · intro number hnumber
        obtain ⟨member, hmember, rfl⟩ := List.mem_map.mp hnumber
        have hsplit : catalogue.ascending = catalogue.ascending ++ [] := (List.append_nil _).symm
        have hnone := filter_ascending hsplit
        have hnot := List.filter_eq_nil_iff.mp hnone member
          (catalogue.perm_ascending.mem_iff.mpr hmember)
        simpa [lastNumber, hlast] using hnot
    rw [lastNumber, hlast, hmax]
    rfl

/-- What a source answers that serves a catalogue is the page behind the cursor. -/
theorem ServedBy.answer_eq {σ : Type} {source : Source σ} (h : catalogue.ServedBy source)
    {outside last : σ} {fetches : List Fetch} (hanswers : Answers source outside fetches last) :
    ∀ fetch ∈ fetches, fetch.answer = .ok (catalogue.page fetch.after) := by
  induction hanswers with
  | nil => simp
  | @cons outside next last fetch rest first later ih =>
    intro other hother
    rcases List.mem_cons.mp hother with rfl | hother
    · have hserved := h other.after outside
      rw [first] at hserved
      exact hserved
    · exact ih other hother

end

end Catalogue

section

variable {catalogue : Catalogue} {planId : String} {now : Instant} {front back : List Entitlement}

/-- The answer to a fetch is the next page, and all on it is in the catalogue. -/
private theorem page_served {after : UInt64} {page : List Entitlement}
    (hsplit : catalogue.ascending = front ++ back) (hcursor : after.toNat = lastNumber front)
    (hanswer : (Except.ok page : Except Failure _) = .ok (catalogue.page after)) :
    page = back.take pageSize ∧ ∀ member ∈ page, member ∈ catalogue.ascending := by
  obtain rfl := Except.ok.inj hanswer
  rw [Catalogue.page_eq_take hsplit hcursor]
  refine ⟨rfl, fun member hmember ↦ ?_⟩
  rw [hsplit]
  exact List.mem_append_right _ (List.mem_of_mem_take hmember)

/-- A full page is not empty. -/
private theorem page_ne_nil {page : List Entitlement} (size : pageSize ≤ page.length) :
    page ≠ [] := by
  rintro rfl
  exact absurd size (by decide)

/-- Handling a page that has purchases of a catalogue moves the cursor to the last one of them. -/
private theorem toNat_lastId (front : List Entitlement) {stats read : Stats} {store changed : Store}
    {page : List Entitlement} {events : List Event}
    (hmembers : ∀ member ∈ page, member ∈ catalogue.ascending) (hne : page ≠ [])
    (handled : pageOutcome planId now stats store page = (.ok read, changed, events)) :
    read.lastId.toNat = lastNumber (front ++ page) := by
  obtain ⟨rest, last, rfl⟩ := (List.eq_nil_or_concat page).resolve_left hne
  rw [List.concat_eq_append] at hmembers handled ⊢
  have hnumbered := catalogue.isNumbered_of_mem_ascending (hmembers last (by simp))
  have hlast := (outcomes_read planId now (pageOutcome_eq handled).2).2 last (by simp)
  rw [cursor?_eq_number hnumbered] at hlast
  have hread : UInt64.ofNat last.number = read.lastId := Option.some.inj hlast
  rw [← hread, UInt64.toNat_ofNat_of_lt' hnumbered.lt, ← List.append_assoc, lastNumber_concat]

/-- Handling the next purchases of a catalogue moves the cursor on. -/
private theorem lastNumber_lt_lastId {stats read : Stats} {store changed : Store}
    {events : List Event} (hsplit : catalogue.ascending = front ++ back)
    (hne : back.take pageSize ≠ [])
    (handled : pageOutcome planId now stats store (back.take pageSize) =
      (.ok read, changed, events)) : lastNumber front < read.lastId.toNat := by
  have hmem {member : Entitlement} (h : member ∈ back.take pageSize) : member ∈ back :=
    List.mem_of_mem_take h
  have hmembers : ∀ member ∈ back.take pageSize, member ∈ catalogue.ascending := by
    intro member hmember
    rw [hsplit]
    exact List.mem_append_right _ (hmem hmember)
  rw [toNat_lastId [] hmembers hne handled, List.nil_append]
  obtain ⟨rest, last, hconcat⟩ := (List.eq_nil_or_concat (back.take pageSize)).resolve_left hne
  rw [List.concat_eq_append] at hconcat
  have hlast : last ∈ back := hmem (by rw [hconcat]; simp)
  rw [hconcat, lastNumber_concat]
  exact Catalogue.lastNumber_lt hsplit hlast

/-- A run that has handled the first purchases of a catalogue handles the others. Each full page
moves the cursor to its last purchase, and nothing but the store can make the run fail. -/
theorem Paged.read_catalogue {stats : Stats} {store last : Store} {fetches : List Fetch}
    {result : Except Failure Stats} {events : List Event}
    (h : Paged planId now stats store fetches result last events)
    (hserved : ∀ fetch ∈ fetches, fetch.answer = .ok (catalogue.page fetch.after))
    (hstore : ∀ error, result ≠ .error (.persistence error))
    (hsplit : catalogue.ascending = front ++ back)
    (hcursor : stats.lastId.toNat = lastNumber front) :
    (∃ read, result = .ok read) ∧ recordsOf fetches = back ∧
      (fetches.map fun fetch ↦ fetch.after.toNat) =
        (List.range (back.length / pageSize + 1)).map fun k ↦
          lastNumber (front ++ back.take (pageSize * k)) := by
  induction h generalizing front back with
  | unanswered => cases hserved _ List.mem_cons_self
  | @unhandled stats store page failure changed events handled =>
    obtain ⟨-, hmembers⟩ := page_served hsplit hcursor (hserved _ List.mem_cons_self)
    have hids : ∀ member ∈ page, (cursor? member.id).isSome := by
      intro member hmember
      rw [cursor?_eq_number (catalogue.isNumbered_of_mem_ascending (hmembers member hmember))]
      rfl
    obtain ⟨error, rfl⟩ := outcomes_failure planId now hids
      (Prod.ext (Prod.mk.inj handled).1 (Prod.ext (Prod.mk.inj (Prod.mk.inj handled).2).1 rfl))
    exact absurd rfl (hstore error)
  | @short stats store page read changed events handled size =>
    obtain ⟨rfl, -⟩ := page_served hsplit hcursor (hserved _ List.mem_cons_self)
    have hlength : back.length < pageSize := by
      rw [List.length_take] at size
      omega
    refine ⟨⟨read, rfl⟩, ?_, ?_⟩
    · simp [recordsOf, Fetch.records, List.take_of_length_le (Nat.le_of_lt hlength)]
    · simp [Nat.div_eq_of_lt hlength, hcursor]
  | @stuck stats store page read changed events handled size still =>
    obtain ⟨rfl, -⟩ := page_served hsplit hcursor (hserved _ List.mem_cons_self)
    have hgrows := lastNumber_lt_lastId hsplit (page_ne_nil size) handled
    have hstill := UInt64.le_iff_toNat_le.mp still
    omega
  | @more stats store page read changed events fetches result last later handled size _ rest ih =>
    obtain ⟨rfl, hmembers⟩ := page_served hsplit hcursor (hserved _ List.mem_cons_self)
    have hne := page_ne_nil size
    have hnext : catalogue.ascending = (front ++ back.take pageSize) ++ back.drop pageSize := by
      rw [List.append_assoc, List.take_append_drop, hsplit]
    obtain ⟨hread, hrecords, hcursors⟩ :=
      ih (fun fetch hfetch ↦ hserved fetch (List.mem_cons_of_mem _ hfetch)) hstore hnext
        (toNat_lastId front hmembers hne handled)
    refine ⟨hread, ?_, ?_⟩
    · change back.take pageSize ++ recordsOf fetches = back
      rw [hrecords, List.take_append_drop]
    · have hlength : back.length / pageSize = (back.drop pageSize).length / pageSize + 1 := by
        rw [List.length_take] at size
        rw [List.length_drop, ← Nat.div_eq_sub_div (by decide) (by omega)]
      rw [List.map_cons, hcursors, hcursor, hlength]
      conv => rhs; rw [List.range_succ_eq_map, List.map_cons, List.map_map]
      congr 1
      · simp
      · refine List.map_congr_left fun k _ ↦ ?_
        rw [Function.comp_apply, Nat.mul_succ, Nat.add_comm, List.take_add, List.append_assoc]

end

/-- Where credits are accepted the store does not fail during a run through a catalogue. -/
theorem Catalogue.ServedBy.ne_persistence {σ : Type} {catalogue : Catalogue} {source : Source σ}
    (h : catalogue.ServedBy source) (planId : String) (now : Instant) (setting : Setting σ)
    (haccepts : AcceptsCredits setting.store) (error : StoreError) :
    ((reconcile planId now source).run setting).1 ≠ .error (.persistence error) := by
  intro hresult
  obtain ⟨fetches, events, hpaged, hanswers, -⟩ :=
    exists_paged_reconcile planId now source setting
  obtain ⟨fetch, hfetch, hanswer⟩ := hpaged.mem_of_persistence haccepts hresult
  rw [h.answer_eq hanswers fetch hfetch] at hanswer
  cases hanswer

/-- Where a source serves a catalogue and the store does not fail, a reconciliation succeeds. It
asks for the pages behind 0 and behind the last purchase of each full page, is told every purchase
once and in ascending order, and does with them what handling them one after the other does. Here
the fetches are those that `Source.recorded` keeps during the run. -/
theorem reconcile_catalogue {σ : Type} (planId : String) (now : Instant) (catalogue : Catalogue)
    (source : Source σ) (setting : Setting σ) (served : catalogue.ServedBy source)
    (permitted : ∀ error,
      ((reconcile planId now source).run setting).1 ≠ .error (.persistence error)) :
    ∃ (stats : Stats) (final : Setting σ) (fetches : List Fetch) (events : List Event),
      (reconcile planId now source).run setting = (.ok stats, final) ∧
      (reconcile planId now source.recorded).run (watched setting []) =
        (.ok stats, watched final fetches) ∧
      (fetches.map fun fetch ↦ fetch.after.toNat) =
        (List.range (catalogue.members.length / pageSize + 1)).map (fun k ↦
          lastNumber (catalogue.ascending.take (pageSize * k))) ∧
      recordsOf fetches = catalogue.ascending ∧
      final.journal = events.reverse ++ setting.journal ∧
      (catalogue.ascending.foldlM (handle planId now) .start : Job Failure Unit Stats).run
          ⟨setting.store, [], ()⟩ =
        (.ok { stats with pages := 0 },
          ⟨final.store, (events.filter (!isPaging ·)).reverse, ()⟩) ∧
      stats.pages = catalogue.members.length / pageSize + 1 ∧
      stats.seen = catalogue.members.length ∧
      stats.lastId.toNat = (catalogue.members.map Entitlement.number).max?.getD 0 := by
  obtain ⟨fetches, events, hpaged, hanswers, hjournal, hkept⟩ :=
    exists_paged_reconcile planId now source setting
  obtain ⟨⟨stats, hstats⟩, hrecords, hcursors⟩ :=
    hpaged.read_catalogue (served.answer_eq hanswers) permitted
      (List.nil_append catalogue.ascending).symm rfl
  have hlength : catalogue.ascending.length = catalogue.members.length :=
    catalogue.perm_ascending.length_eq
  rw [hstats] at hpaged hjournal
  obtain ⟨-, hpages, hall⟩ := hpaged.outcomes_eq
  rw [hrecords] at hall
  have hfetches : fetches.length = catalogue.members.length / pageSize + 1 := by
    have h := congrArg List.length hcursors
    rwa [List.length_map, List.length_map, List.length_range, hlength] at h
  obtain ⟨hseen, hlast⟩ := outcomes_read planId now hall
  refine ⟨stats, _, fetches, events ++ closing (.ok stats), Prod.ext hstats rfl, ?_, ?_, hrecords,
    hjournal, ?_, ?_, ?_, ?_⟩
  · rw [hkept, hstats]
    rfl
  · simpa only [hlength, List.nil_append] using hcursors
  · rw [run_foldlM_handle, hall]
    simp [closing, isPaging, Stats.start]
  · rw [hpages, hfetches]
    simp [Stats.start]
  · rw [← hlength]
    simpa [Stats.start] using hseen
  · rw [← Catalogue.lastNumber_ascending]
    cases hmember : catalogue.ascending.getLast? with
    | none =>
      rw [List.getLast?_eq_none_iff.mp hmember] at hall
      have hstart : Stats.start = { stats with pages := 0 } :=
        Except.ok.inj (Prod.mk.inj hall).1
      have hlastId : stats.lastId = 0 := (congrArg Stats.lastId hstart).symm
      rw [hlastId, lastNumber, hmember]
      rfl
    | some member =>
      have hnumbered := catalogue.isNumbered_of_mem_ascending (List.mem_of_getLast? hmember)
      have hid := hlast member hmember
      rw [cursor?_eq_number hnumbered] at hid
      have hread : UInt64.ofNat member.number = stats.lastId := Option.some.inj hid
      rw [← hread, UInt64.toNat_ofNat_of_lt' hnumbered.lt, lastNumber, hmember]
      rfl

/-- A source that serves a catalogue. -/
def Catalogue.serve (catalogue : Catalogue) : Source Unit :=
  fun after ↦ pure (.ok (catalogue.page after))

/-- Purchases for two full pages, every second one of which is a subscription. -/
def twoPages : List Entitlement :=
  (List.range 200).map fun k ↦
    ⟨toString (k + 1), some "ann", none, some "plan", if k % 2 = 0 then 8 else 1, none, none⟩

private theorem number_twoPages :
    twoPages.map Entitlement.number = List.range' 1 200 := by decide +kernel

/-- The purchases for two full pages, the one with the greatest number first. -/
def fullCatalogue : Catalogue where
  members := twoPages.reverse
  isNumbered := by decide +kernel
  distinct := by
    rw [List.map_reverse, number_twoPages]
    exact List.nodup_reverse.mpr List.nodup_range'

/-- Two full pages are followed by a request for a third one, and each purchase is met once. -/
theorem reconcile_fullCatalogue :
    let setting : Setting Unit := ⟨{ Store.empty with credits := some [] }, [], ()⟩
    let source := fullCatalogue.serve
    (∀ error,
      ((reconcile "plan" .epoch source).run setting).1 ≠ .error (.persistence error)) ∧
    ∃ (stats : Stats) (final : Setting Unit) (fetches : List Fetch) (events : List Event),
      (reconcile "plan" .epoch source).run setting = (.ok stats, final) ∧
      (reconcile "plan" .epoch source.recorded).run (watched setting []) =
        (.ok stats, watched final fetches) ∧
      (fetches.map fun fetch ↦ fetch.after.toNat) = [0, 100, 200] ∧
      recordsOf fetches = twoPages ∧
      final.journal = events.reverse ++ setting.journal ∧
      (twoPages.foldlM (handle "plan" .epoch) .start : Job Failure Unit Stats).run
          ⟨setting.store, [], ()⟩ =
        (.ok { stats with pages := 0 },
          ⟨final.store, (events.filter (!isPaging ·)).reverse, ()⟩) ∧
      stats.pages = 3 ∧ stats.seen = 200 ∧ stats.lastId.toNat = 200 := by
  intro setting source
  have hascending : fullCatalogue.ascending = twoPages :=
    Catalogue.ascending_eq _ (List.reverse_perm _).symm
      (List.pairwise_map.mp (number_twoPages ▸ List.pairwise_lt_range'))
  have hserved : fullCatalogue.ServedBy source := fun _ _ ↦ rfl
  have hpermitted := hserved.ne_persistence "plan" .epoch setting ⟨rfl, rfl, fun _ _ ↦ rfl⟩
  have hresult :=
    reconcile_catalogue "plan" .epoch fullCatalogue source setting hserved hpermitted
  have hlength : fullCatalogue.members.length = 200 := by decide +kernel
  have hcursors : ((List.range (200 / pageSize + 1)).map fun k ↦
      lastNumber (twoPages.take (pageSize * k))) = [0, 100, 200] := by decide +kernel
  have hgreatest : (fullCatalogue.members.map Entitlement.number).max?.getD 0 = 200 := by
    decide +kernel
  rw [hascending, hlength, hcursors, hgreatest] at hresult
  exact ⟨hpermitted, hresult⟩

end BotOps.Billing
