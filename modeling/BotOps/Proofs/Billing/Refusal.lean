import BotOps.Proofs.Billing.Cursor
import BotOps.Proofs.Billing.Interruption

/-!
# Purchases without a number

A purchase whose identifier is no cursor aborts the run that comes to it: it is not written itself,
and no page is fetched behind it. `reconcile_aborts_unnumbered` says so of every run, together with
which identifiers these are.
-/

namespace BotOps.Billing

open BotOps.Store BotOps.Time

/-- Of two elements of a list, both stand at one place, or the first one stands before the second,
or behind it. -/
theorem eq_or_mem_or_exists_of_append_cons {α : Type} {front rest other behind : List α} {a b : α}
    (h : front ++ a :: rest = other ++ b :: behind) :
    other = front ∧ b = a ∨ a ∈ other ∨ ∃ more, front = other ++ b :: more := by
  rcases List.append_eq_append_iff.mp h with ⟨more, rfl, htail⟩ | ⟨more, rfl, htail⟩
  · cases more with
    | nil => exact .inl ⟨List.append_nil _, (List.cons.inj htail).1.symm⟩
    | cons c more =>
      obtain ⟨rfl, -⟩ := List.cons.inj htail
      exact .inr (.inl (List.mem_append_right _ List.mem_cons_self))
  · cases more with
    | nil => exact .inl ⟨(List.append_nil _).symm, (List.cons.inj htail).1⟩
    | cons c more =>
      obtain ⟨rfl, -⟩ := List.cons.inj htail
      exact .inr (.inr ⟨more, rfl⟩)

section

variable {planId : String} {now : Instant} {store last : Store}

/-- Handling the same purchases leaves the same store. -/
theorem Handled.unique {records : List Entitlement} {other : Store}
    (h : Handled planId now store records last) (hother : Handled planId now store records other) :
    last = other :=
  (Prod.mk.inj (h.run_upsertCredits.symm.trans hother.run_upsertCredits)).2

/-- A purchase without a number is refused for this. -/
theorem Refused.eq_badIdentifier {record : Entitlement} {failure : Failure}
    (h : Refused planId now store record failure) (number : cursor? record.id = none) :
    failure = .service (.badIdentifier record.id) := by
  cases h with
  | unnumbered => rfl
  | unkept hnumber => simp [number] at hnumber

/-- A run that meets a purchase without a number on its last page fails there, or at an earlier
purchase on the page. -/
theorem Ends.of_unnumbered {fetch : Fetch} {result : Except Failure Stats}
    {done rest : List Entitlement} {record : Entitlement}
    (h : Ends planId now store fetch result last)
    (answer : fetch.answer = .ok (done ++ record :: rest)) (number : cursor? record.id = none) :
    result = .error (.service (.badIdentifier record.id)) ∧ Handled planId now store done last ∨
      ∃ kept refused more failure, done = kept ++ refused :: more ∧
        result = .error failure ∧ Handled planId now store kept last ∧
          Refused planId now last refused failure := by
  have hunhandled {page : List Entitlement} (hpage : fetch.answer = .ok page) :
      ¬ Handled planId now store page last := by
    intro hhandled
    obtain rfl := Except.ok.inj (answer.symm.trans hpage)
    have hsome := hhandled.numbered record (List.mem_append_right _ List.mem_cons_self)
    simp [number] at hsome
  cases h with
  | unanswered hanswer => cases answer.symm.trans hanswer
  | short hanswer handled => exact absurd handled (hunhandled hanswer)
  | still hanswer handled => exact absurd handled (hunhandled hanswer)
  | @refused kept refused behind failure _ hanswer handled hrefused =>
    have hpage := Except.ok.inj (answer.symm.trans hanswer)
    rcases eq_or_mem_or_exists_of_append_cons hpage with ⟨rfl, rfl⟩ | hmem | ⟨more, rfl⟩
    · exact .inl ⟨congrArg Except.error (hrefused.eq_badIdentifier number), handled⟩
    · have hsome := handled.numbered record hmem
      simp [number] at hsome
    · exact .inr ⟨kept, refused, more, failure, rfl, rfl, handled, hrefused⟩

end

/-- The identifier of a purchase gives a cursor just if it writes this very number, and no text
writes two numbers. A purchase whose identifier writes no number of 64 bits fails when it is
handled, and nothing is written or reported of it. In a run it stands on no page but the last one
fetched. The run fails with the store that handling the purchases before it leaves, or even before
it has handled all of these. Here the fetches are those that `Source.recorded` keeps during the
run. -/
theorem reconcile_aborts_unnumbered (record : Entitlement) :
    (∀ n : UInt64, cursor? record.id = some n ↔ WritesNumber record.id.toList n.toNat) ∧
      (∀ m n, WritesNumber record.id.toList m → WritesNumber record.id.toList n → m = n) ∧
      ((∀ n, WritesNumber record.id.toList n → UInt64.size ≤ n) →
        ∀ {σ : Type} (planId : String) (now : Instant) (source : Source σ) (setting : Setting σ),
          let run := (reconcile planId now source).run setting
          let failure : Failure := .service (.badIdentifier record.id)
          (∀ stats, (handle planId now stats record).run setting = (.error failure, setting)) ∧
          ∃ front last middle,
            (reconcile planId now source.recorded).run (watched setting []) =
              (run.1, watched run.2 (front ++ [last])) ∧
            Handled planId now setting.store (recordsOf front) middle ∧
            record ∉ recordsOf front ∧
            ∀ done rest, last.answer = .ok (done ++ record :: rest) →
              (∀ reached, Handled planId now middle done reached →
                run.1 = .error failure ∧ run.2.store = reached) ∧
              ∃ kept cause, kept <+: done ∧ Handled planId now middle kept run.2.store ∧
                run.1 = .error cause) := by
  refine ⟨cursor?_eq_some_iff record.id, fun m n hm hn ↦ hm.unique hn, ?_⟩
  intro hlarge σ planId now source setting run failure
  have hnumber : cursor? record.id = none := (cursor?_eq_none_iff record.id).mpr hlarge
  have hhandle (stats : Stats) :
      (handle planId now stats record).run setting = (.error failure, setting) := by
    unfold handle
    rw [hnumber]
    rfl
  refine ⟨hhandle, ?_⟩
  obtain ⟨fetches, events, hpaged, -, -, hrecorded⟩ :=
    exists_paged_reconcile planId now source setting
  obtain ⟨front, last, middle, rfl, hfront, hends⟩ := hpaged.ends
  refine ⟨front, last, middle, hrecorded [], hfront, ?_, ?_⟩
  · intro hmem
    have hsome := hfront.numbered record hmem
    simp [hnumber] at hsome
  intro done rest hanswer
  rcases hends.of_unnumbered hanswer hnumber with
    ⟨hresult, hdone⟩ | ⟨kept, refused, more, cause, rfl, hresult, hkept, hrefused⟩
  · exact ⟨fun reached hreached ↦ ⟨hresult, hdone.unique hreached⟩,
      done, failure, List.prefix_rfl, hdone, hresult⟩
  · exact ⟨fun reached hreached ↦ absurd hrefused (hreached.not_refused hkept), kept, cause,
      List.prefix_append .., hkept, hresult⟩

/-- A subscription whose identifier is one too great for 64 bits. -/
def tooGreat : Entitlement :=
  ⟨"+18446744073709551616", some "cat", none, some "lost", 8, none, none⟩

/-- A subscription with a number behind a blank and zeros. -/
def punctual : Entitlement := ⟨" 0007", some "bob", none, some "kept", 6, none, none⟩

/-- A page with these and one more subscription. -/
def tooGreatPage : List Entitlement :=
  [punctual, tooGreat, ⟨"9", some "dan", none, some "late", 8, none, none⟩]

/-- A source that answers with this page. -/
def tooGreatSource : Source Unit := fun _ ↦ pure (.ok tooGreatPage)

/-- The identifier writes the first number beyond 64 bits and no other, so only the subscription
before it is written. -/
theorem reconcile_aborts_tooGreat :
    let setting : Setting Unit := ⟨{ Store.empty with credits := some [] }, [], ()⟩
    let run := (reconcile "plan" .epoch tooGreatSource).run setting
    let failure : Failure := .service (.badIdentifier tooGreat.id)
    WritesNumber tooGreat.id.toList UInt64.size ∧
    (∀ n, WritesNumber tooGreat.id.toList n → UInt64.size ≤ n) ∧
    (∀ stats, (handle "plan" .epoch stats tooGreat).run setting = (.error failure, setting)) ∧
    run.1 = .error failure ∧
    run.2.store.credits.map (List.map CreditRow.subscriptionId) = some ["kept"] := by
  intro setting run failure
  have hwrites : WritesNumber tooGreat.id.toList UInt64.size :=
    writesNumber_iff.mpr ⟨by decide, List.all_eq_true.mp (by decide), by decide⟩
  have hlarge : ∀ n, WritesNumber tooGreat.id.toList n → UInt64.size ≤ n := by
    intro n hn
    obtain rfl := hn.unique hwrites
    exact Nat.le_refl _
  obtain ⟨-, -, haborts⟩ := reconcile_aborts_unnumbered tooGreat
  obtain ⟨hhandle, front, last, middle, hrecorded, hfront, -, hlast⟩ :=
    haborts hlarge "plan" .epoch tooGreatSource setting
  have hfetches : front ++ [last] = [⟨0, .ok tooGreatPage⟩] := by
    have hrun := run_reconcile "plan" .epoch tooGreatSource.recorded (watched setting [])
    rw [run_pages, hrecorded] at hrun
    exact congrArg (·.2.outside.2) hrun
  obtain ⟨rfl, rfl⟩ : front = [] ∧ last = ⟨0, .ok tooGreatPage⟩ := by
    cases front with
    | nil => exact ⟨rfl, List.singleton_inj.mp hfetches⟩
    | cons fetch front => simp at hfetches
  cases hfront
  let credit := newCredit "plan" .epoch punctual "kept" .unknown
  have hhandled : Handled "plan" .epoch setting.store [punctual]
      ((upsertCredit credit Instant.epoch.stored).run setting.store).2 :=
    .keep (by decide) rfl rfl (.nil _)
  obtain ⟨hfailed, hstore⟩ := (hlast [punctual] _ rfl).1 _ hhandled
  refine ⟨hwrites, hlarge, hhandle, hfailed, ?_⟩
  rw [hstore]
  decide +kernel

end BotOps.Billing
