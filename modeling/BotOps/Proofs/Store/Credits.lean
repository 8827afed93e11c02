import BotOps.Proofs.Store.Statement
import BotOps.Store.Credits

/-!
# Putting credits into the store

An upsert either fails and leaves the store as it was, or changes nothing but the table of credits,
where it refreshes the row of the subscription or adds one: `run_upsertCredit`.
-/

namespace BotOps.Store

/-- Some row is that of a subscription. -/
def hasCredit (rows : List CreditRow) (id : String) : Bool :=
  rows.any fun row ↦ row.subscriptionId = id

/-- What becomes of a credit that is put among rows. -/
def upsertOf (rows : List CreditRow) (id : String) : Upsert :=
  if hasCredit rows id then .updated else .inserted

/-- The change that putting a credit among rows makes to the table. -/
def changeOf (rows : List CreditRow) (id : String) : Change :=
  if hasCredit rows id then .update else .insert

/-- A subscription has a credit if it is one of those in the rows. -/
theorem hasCredit_iff {rows : List CreditRow} {id : String} :
    hasCredit rows id = true ↔ id ∈ rows.map CreditRow.subscriptionId := by
  simp [hasCredit]

/-- An upsert fails for want of the table or because the store refuses it; otherwise it puts its
credit among the rows and touches nothing else. -/
theorem run_upsertCredit (credit : Credit) (now : String) (store : Store) :
    (upsertCredit credit now).run store =
      match store.credits with
      | none => (.error (.missingTable Table.credits.name), store)
      | some rows =>
        match store.refusal? (changeOf rows credit.subscriptionId) .credits
            (some credit.subscriptionId) true none with
        | some error => (.error error, store)
        | none =>
          (.ok (upsertOf rows credit.subscriptionId),
            { store with credits := some (putCredit rows credit now) }) := by
  unfold upsertCredit
  rw [run_transaction]
  cases hrows : store.credits with
  | none =>
    have hread : Statement.creditRow? credit.subscriptionId store =
        .error (.missingTable Table.credits.name) := by
      unfold Statement.creditRow?
      rw [Statement.bind_error (Statement.content_none hrows)]
    rw [run_bind_error (run_execute_error hread)]
  | some rows =>
    have hread : Statement.creditRow? credit.subscriptionId store =
        .ok (rows.find? fun row ↦ row.subscriptionId = credit.subscriptionId, store) := by
      unfold Statement.creditRow?
      rw [Statement.bind_ok (Statement.content_some hrows)]
      rfl
    rw [run_bind_ok (run_execute_ok hread)]
    dsimp only
    cases hrefusal : store.refusal? (changeOf rows credit.subscriptionId) .credits
        (some credit.subscriptionId) true none with
    | some error =>
      have hput : Statement.putCredit credit now store = .error error := by
        unfold Statement.putCredit
        rw [Statement.bind_ok (Statement.content_some hrows)]
        exact Statement.bind_error (Statement.permit_some hrefusal) _
      rw [run_bind_error (run_execute_error hput)]
    | none =>
      have hput : Statement.putCredit credit now store =
          .ok ((), { store with credits := some (putCredit rows credit now) }) := by
        unfold Statement.putCredit
        rw [Statement.bind_ok (Statement.content_some hrows)]
        exact Statement.bind_ok (Statement.permit_none hrefusal) _
      rw [run_bind_ok (run_execute_ok hput), List.isSome_find?]
      rfl

/-- An upsert that succeeds puts its credit among the rows and touches nothing else. -/
theorem run_upsertCredit_ok {credit : Credit} {now : String} {store changed : Store}
    {rows : List CreditRow} {upsert : Upsert} (hrows : store.credits = some rows)
    (h : (upsertCredit credit now).run store = (.ok upsert, changed)) :
    upsert = upsertOf rows credit.subscriptionId ∧
      changed = { store with credits := some (putCredit rows credit now) } := by
  rw [run_upsertCredit, hrows] at h
  dsimp only at h
  split at h
  · cases (Prod.mk.inj h).1
  · obtain ⟨hupsert, rfl⟩ := Prod.mk.inj h
    exact ⟨(Except.ok.inj hupsert).symm, rfl⟩

/-- An upsert that succeeds finds the table of credits. -/
theorem exists_credits_of_run_upsertCredit {credit : Credit} {now : String} {store changed : Store}
    {upsert : Upsert} (h : (upsertCredit credit now).run store = (.ok upsert, changed)) :
    ∃ rows, store.credits = some rows := by
  rw [run_upsertCredit] at h
  cases hrows : store.credits with
  | none =>
    rw [hrows] at h
    cases (Prod.mk.inj h).1
  | some rows => exact ⟨rows, rfl⟩

/-- A credit that was put among rows has one. -/
theorem mem_subscriptionId_putCredit (rows : List CreditRow) (credit : Credit) (now : String) :
    credit.subscriptionId ∈ (putCredit rows credit now).map CreditRow.subscriptionId := by
  unfold putCredit
  split
  · next hany =>
    obtain ⟨row, hrow, hid⟩ := List.any_eq_true.mp hany
    have hid := of_decide_eq_true hid
    refine List.mem_map.mpr ⟨row.refresh credit now, ?_, hid⟩
    exact List.mem_map.mpr ⟨row, hrow, if_pos hid⟩
  · exact List.mem_map.mpr ⟨.ofCredit credit now, List.mem_concat_self, rfl⟩

/-- The rows of a credit that was put among others have its activity. -/
theorem active_of_mem_putCredit {rows : List CreditRow} {credit : Credit} {now : String}
    {row : CreditRow} (h : row ∈ putCredit rows credit now)
    (hid : row.subscriptionId = credit.subscriptionId) : row.active = flag credit.active := by
  unfold putCredit at h
  split at h
  · obtain ⟨old, -, rfl⟩ := List.mem_map.mp h
    by_cases hold : old.subscriptionId = credit.subscriptionId
    · rw [if_pos hold]
      rfl
    · rw [if_neg hold] at hid
      exact absurd hid hold
  · next hany =>
    rcases List.mem_append.mp h with h | h
    · exact absurd (List.any_eq_true.mpr ⟨row, h, decide_eq_true hid⟩) hany
    · obtain rfl := List.mem_singleton.mp h
      rfl

/-- Puts credits into the store in turn. -/
def upsertCredits (credits : List Credit) (now : String) : Operation Unit :=
  credits.forM fun credit ↦ do let _ ← upsertCredit credit now

/-- The rows after credits were put among them in turn. -/
def putCredits (rows : List CreditRow) (credits : List Credit) (now : String) : List CreditRow :=
  credits.foldl (fun rows credit ↦ putCredit rows credit now) rows

/-- The first credit is put into the store and then the others are. -/
theorem run_upsertCredits_cons (credit : Credit) (credits : List Credit) (now : String)
    (store : Store) :
    (upsertCredits (credit :: credits) now).run store =
      match (upsertCredit credit now).run store with
      | (.ok _, changed) => (upsertCredits credits now).run changed
      | (.error error, changed) => (.error error, changed) := by
  change ((upsertCredit credit now >>= fun _ ↦ pure ()) >>= fun _ ↦
    upsertCredits credits now).run store = _
  rw [run_bind, run_bind]
  rcases (upsertCredit credit now).run store with ⟨error | upsert, changed⟩ <;> rfl

/-- Credits that are all put into the store are put among the rows in turn, and nothing else is
touched. -/
theorem run_upsertCredits_ok {credits : List Credit} {now : String} {store changed : Store}
    {rows : List CreditRow} (hrows : store.credits = some rows)
    (h : (upsertCredits credits now).run store = (.ok (), changed)) :
    changed = { store with credits := some (putCredits rows credits now) } := by
  induction credits generalizing store rows with
  | nil =>
    obtain ⟨-, rfl⟩ := Prod.mk.inj h
    rw [putCredits, List.foldl_nil, ← hrows]
  | cons credit credits ih =>
    rw [run_upsertCredits_cons] at h
    cases hfirst : (upsertCredit credit now).run store with
    | mk result middle =>
    rw [hfirst] at h
    cases result with
    | error error => cases (Prod.mk.inj h).1
    | ok upsert =>
      obtain ⟨-, hmiddle⟩ := run_upsertCredit_ok hrows hfirst
      rw [ih (congrArg Store.credits hmiddle) h, hmiddle]
      rfl

/-- A store has the table of credits, and neither a lock nor a guard stands in the way of a change
to it. -/
structure AcceptsCredits (store : Store) : Prop where
  isSome : store.credits.isSome
  unlocked : store.locked = false
  unguarded : ∀ change subscription, store.guard? change .credits subscription = none

/-- Where credits are accepted an upsert succeeds, and credits are accepted still. -/
theorem AcceptsCredits.run_upsertCredit {store : Store} (h : AcceptsCredits store) (credit : Credit)
    (now : String) :
    ∃ upsert changed, (upsertCredit credit now).run store = (.ok upsert, changed) ∧
      AcceptsCredits changed := by
  obtain ⟨rows, hrows⟩ := Option.isSome_iff_exists.mp h.isSome
  have hopen (change : Change) :
      store.refusal? change .credits (some credit.subscriptionId) true none = none :=
    refusal?_eq_none_iff.mpr ⟨h.unlocked, rfl, fun _ ↦ h.unguarded change _⟩
  rw [BotOps.Store.run_upsertCredit, hrows]
  dsimp only
  rw [hopen]
  exact ⟨_, _, rfl, rfl, h.unlocked, h.unguarded⟩

end BotOps.Store
