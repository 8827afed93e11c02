import BotOps.Proofs.Billing.Handling
import Mathlib.Data.List.Nodup

/-!
# The rows of met subscriptions

What becomes of the table of credits while purchases are met one after the other. The purchase that
is met first gives a new row its user and guild (`addedRow`), and the one that was met last gives
every row its activity (`refreshed`).
-/

namespace BotOps.Billing

open BotOps.Store BotOps.Time

/-- Both bounds of a purchase's validity can be read and enclose a moment. -/
def Entitlement.IsActiveAt (now : Instant) (entitlement : Entitlement) : Prop :=
  ∃ start ∈ entitlement.startsAt.bind Instant.parse?,
    ∃ stop ∈ entitlement.endsAt.bind Instant.parse?, start ≤ now ∧ now ≤ stop

instance (now : Instant) (entitlement : Entitlement) : Decidable (entitlement.IsActiveAt now) :=
  inferInstanceAs (Decidable (∃ start ∈ entitlement.startsAt.bind Instant.parse?,
    ∃ stop ∈ entitlement.endsAt.bind Instant.parse?, start ≤ now ∧ now ≤ stop))

/-- The purchases that earn the credit of a subscription, in order. -/
def purchasesOf (records : List Entitlement) (id : String) : List Entitlement :=
  records.filter fun record ↦ record.earns = some id

/-- A row after one purchase was met: if that earns its credit, it decides whether the row is
active, and the update is dated. -/
def touched (now : Instant) (record : Entitlement) (row : CreditRow) : CreditRow :=
  if record.earns = some row.subscriptionId then
    { row with active := if record.IsActiveAt now then 1 else 0, updatedAt := now.stored }
  else row

/-- A row after some purchases were met: its activity and the date of its update come from the last
one for its subscription. -/
def refreshed (now : Instant) (records : List Entitlement) (row : CreditRow) : CreditRow :=
  match (purchasesOf records row.subscriptionId).getLast? with
  | some last =>
    { row with active := if last.IsActiveAt now then 1 else 0, updatedAt := now.stored }
  | none => row

/-- The row of a subscription that was met first in one purchase and last in another. -/
def addedRow (planId : String) (now : Instant) (id : String) (first last : Entitlement) :
    CreditRow where
  userId := first.userId
  subscriptionId := id
  guildId := first.guildId
  active := if last.IsActiveAt now then 1 else 0
  since := now.stored
  planId := planId
  paymentFailed := 0
  cancelDate := none
  updatedAt := now.stored

/-- The rows that some purchases add to a table: one for each subscription that has none. -/
structure Added (planId : String) (now : Instant) (before : List CreditRow)
    (records : List Entitlement) (added : List CreditRow) : Prop where
  distinct : (added.map CreditRow.subscriptionId).Nodup
  mem_iff : ∀ id, id ∈ added.map CreditRow.subscriptionId ↔
    (∃ record ∈ records, record.earns = some id) ∧ id ∉ before.map CreditRow.subscriptionId
  eq_addedRow : ∀ row ∈ added, ∃ first last,
    (purchasesOf records row.subscriptionId).head? = some first ∧
      (purchasesOf records row.subscriptionId).getLast? = some last ∧
        row = addedRow planId now row.subscriptionId first last

section

variable {planId : String} {now : Instant}

/-- A purchase counts as active when its bounds can be read and enclose the moment. -/
theorem isActive_activityAt (entitlement : Entitlement) :
    (entitlement.activityAt now).isActive = decide (entitlement.IsActiveAt now) := by
  rw [Bool.eq_iff_iff, decide_eq_true_iff, Entitlement.activityAt, readBound_eq, readBound_eq]
  unfold Entitlement.IsActiveAt
  cases entitlement.startsAt.bind Instant.parse? with
  | none => simp [Activity.of, Activity.isActive]
  | some start =>
    cases entitlement.endsAt.bind Instant.parse? with
    | none => simp [Activity.of, Activity.isActive]
    | some stop =>
      by_cases h : start ≤ now ∧ now ≤ stop <;> simp [Activity.of, Activity.isActive, h]

private theorem purchasesOf_append (records more : List Entitlement) (id : String) :
    purchasesOf (records ++ more) id = purchasesOf records id ++ purchasesOf more id :=
  List.filter_append ..

/-- A purchase for another subscription is none for this one. -/
theorem purchasesOf_singleton_ne {record : Entitlement} {id : String} (h : record.earns ≠ some id) :
    purchasesOf [record] id = [] := by
  simp [purchasesOf, h]

private theorem purchasesOf_singleton {record : Entitlement} {id : String}
    (h : record.earns = some id) :
    purchasesOf [record] id = [record] := by
  simp [purchasesOf, h]

/-- A subscription that no purchase is for has no purchases. -/
theorem purchasesOf_eq_nil {records : List Entitlement} {id : String}
    (h : ¬ ∃ record ∈ records, record.earns = some id) : purchasesOf records id = [] := by
  rw [purchasesOf, List.filter_eq_nil_iff]
  intro record hrecord hearns
  exact h ⟨record, hrecord, of_decide_eq_true hearns⟩

private theorem subscriptionId_touched (record : Entitlement) (row : CreditRow) :
    (touched now record row).subscriptionId = row.subscriptionId := by
  unfold touched
  split <;> rfl

/-- A row that is refreshed stays with its subscription. -/
theorem subscriptionId_refreshed (records : List Entitlement) (row : CreditRow) :
    (refreshed now records row).subscriptionId = row.subscriptionId := by
  unfold refreshed
  split <;> rfl

/-- Meeting purchases is meeting one after the other. -/
theorem refreshed_append (records : List Entitlement) (record : Entitlement) (row : CreditRow) :
    refreshed now (records ++ [record]) row = touched now record (refreshed now records row) := by
  rw [touched, subscriptionId_refreshed]
  by_cases h : record.earns = some row.subscriptionId
  · rw [if_pos h, refreshed, purchasesOf_append, purchasesOf_singleton h, List.getLast?_concat]
    unfold refreshed
    cases (purchasesOf records row.subscriptionId).getLast? <;> rfl
  · rw [if_neg h, refreshed, purchasesOf_append, purchasesOf_singleton_ne h, List.append_nil]
    rfl

end

section

variable {planId : String} {now : Instant} {before rows added : List CreditRow}
  {records : List Entitlement} {record : Entitlement} {id : String}

/-- The rows after a purchase was met. -/
def kept (planId : String) (now : Instant) (record : Entitlement) (rows : List CreditRow) :
    List CreditRow :=
  match record.credit? planId now with
  | some credit => putCredit rows credit now.stored
  | none => rows

/-- A purchase whose subscription has a row only touches that row. -/
theorem kept_known
    (h : ∀ id, record.earns = some id → id ∈ rows.map CreditRow.subscriptionId) :
    kept planId now record rows = rows.map (touched now record) := by
  unfold kept Entitlement.credit?
  cases hearns : record.earns with
  | none =>
    have hstill : touched now record = id := by
      funext row
      simp [touched, hearns]
    simp [hstill]
  | some id =>
    have hknown : rows.any (fun row ↦ row.subscriptionId = id) = true :=
      hasCredit_iff.mpr (h id hearns)
    rw [Option.map_some]
    dsimp only [newCredit]
    rw [putCredit, if_pos hknown]
    refine List.map_congr_left fun row _ ↦ ?_
    rw [touched, hearns]
    by_cases hrow : row.subscriptionId = id
    · simp [hrow, CreditRow.refresh, isActive_activityAt, flag]
    · simp [hrow, Ne.symm hrow]

/-- A purchase whose subscription has no row adds one. -/
theorem kept_new (hearns : record.earns = some id)
    (h : id ∉ rows.map CreditRow.subscriptionId) :
    kept planId now record rows = rows ++ [addedRow planId now id record record] := by
  have hnew : ¬ rows.any (fun row ↦ row.subscriptionId = id) = true :=
    fun hany ↦ h (hasCredit_iff.mp hany)
  unfold kept Entitlement.credit?
  rw [hearns, Option.map_some]
  dsimp only [newCredit]
  rw [putCredit, if_neg hnew]
  simp [CreditRow.ofCredit, addedRow, isActive_activityAt, flag]

private theorem touched_addedRow {first last : Entitlement} (h : record.earns = some id) :
    touched now record (addedRow planId now id first last) =
      addedRow planId now id first record :=
  if_pos h

/-- A subscription that has no row, neither an older one nor an added one, was in no purchase. -/
theorem Added.purchasesOf_eq_nil (h : Added planId now before records added)
    (hbefore : id ∉ before.map CreditRow.subscriptionId)
    (hadded : id ∉ added.map CreditRow.subscriptionId) : purchasesOf records id = [] :=
  BotOps.Billing.purchasesOf_eq_nil fun hmet ↦ hadded ((h.mem_iff id).mpr ⟨hmet, hbefore⟩)

/-- A purchase whose subscription has a row adds none. -/
theorem Added.touch (h : Added planId now before records added)
    (hknown : ∀ id, record.earns = some id →
      id ∈ before.map CreditRow.subscriptionId ∨ id ∈ added.map CreditRow.subscriptionId) :
    Added planId now before (records ++ [record]) (added.map (touched now record)) := by
  have hids : (added.map (touched now record)).map CreditRow.subscriptionId =
      added.map CreditRow.subscriptionId := by
    rw [List.map_map]
    exact List.map_congr_left fun row _ ↦ subscriptionId_touched record row
  refine ⟨hids ▸ h.distinct, fun id ↦ ?_, fun row hrow ↦ ?_⟩
  · rw [hids, h.mem_iff]
    constructor
    · rintro ⟨⟨met, hmet, hearns⟩, hbefore⟩
      exact ⟨⟨met, List.mem_append_left _ hmet, hearns⟩, hbefore⟩
    · rintro ⟨⟨met, hmet, hearns⟩, hbefore⟩
      rcases List.mem_append.mp hmet with hmet | hmet
      · exact ⟨⟨met, hmet, hearns⟩, hbefore⟩
      · obtain rfl := List.mem_singleton.mp hmet
        exact (h.mem_iff id).mp ((hknown id hearns).resolve_left hbefore)
  · obtain ⟨old, hold, rfl⟩ := List.mem_map.mp hrow
    obtain ⟨first, last, hfirst, hlast, heq⟩ := h.eq_addedRow old hold
    rw [subscriptionId_touched, purchasesOf_append, List.head?_append, hfirst]
    by_cases hearns : record.earns = some old.subscriptionId
    · refine ⟨first, record, rfl, ?_, ?_⟩
      · rw [purchasesOf_singleton hearns, List.getLast?_concat]
      · rw [heq]
        exact touched_addedRow hearns
    · refine ⟨first, last, rfl, ?_, ?_⟩
      · rw [purchasesOf_singleton_ne hearns, List.append_nil, hlast]
      · rw [touched, if_neg hearns]
        exact heq

/-- A purchase whose subscription has no row adds one. -/
theorem Added.snoc (h : Added planId now before records added) (hearns : record.earns = some id)
    (hbefore : id ∉ before.map CreditRow.subscriptionId)
    (hadded : id ∉ added.map CreditRow.subscriptionId) :
    Added planId now before (records ++ [record])
      (added ++ [addedRow planId now id record record]) := by
  refine ⟨?_, fun other ↦ ?_, fun row hrow ↦ ?_⟩
  · rw [List.map_append, List.nodup_append]
    refine ⟨h.distinct, by simp, ?_⟩
    rintro other hother last hlast rfl
    obtain rfl : other = id := by simpa [addedRow] using hlast
    exact hadded hother
  · rw [List.map_append, List.mem_append, h.mem_iff]
    constructor
    · rintro (⟨⟨met, hmet, hmetEarns⟩, hother⟩ | hother)
      · exact ⟨⟨met, List.mem_append_left _ hmet, hmetEarns⟩, hother⟩
      · obtain rfl : other = id := by simpa [addedRow] using hother
        exact ⟨⟨record, by simp, hearns⟩, hbefore⟩
    · rintro ⟨⟨met, hmet, hmetEarns⟩, hother⟩
      rcases List.mem_append.mp hmet with hmet | hmet
      · exact .inl ⟨⟨met, hmet, hmetEarns⟩, hother⟩
      · obtain rfl := List.mem_singleton.mp hmet
        obtain rfl := Option.some.inj (hmetEarns.symm.trans hearns)
        exact .inr (by simp [addedRow])
  · rcases List.mem_append.mp hrow with hrow | hrow
    · obtain ⟨first, last, hfirst, hlast, heq⟩ := h.eq_addedRow row hrow
      have hother : record.earns ≠ some row.subscriptionId := by
        intro hrowEarns
        have hid : row.subscriptionId = id := Option.some.inj (hrowEarns.symm.trans hearns)
        exact hadded (hid ▸ List.mem_map_of_mem hrow)
      refine ⟨first, last, ?_, ?_, heq⟩ <;>
        rw [purchasesOf_append, purchasesOf_singleton_ne hother, List.append_nil]
      · exact hfirst
      · exact hlast
    · obtain rfl := List.mem_singleton.mp hrow
      have hnone : purchasesOf records id = [] := h.purchasesOf_eq_nil hbefore hadded
      refine ⟨record, record, ?_, ?_, rfl⟩ <;>
        simp only [addedRow, purchasesOf_append, purchasesOf_singleton hearns, hnone] <;> rfl

end

end BotOps.Billing
