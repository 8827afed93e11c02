import BotOps.Proofs.Store.Reading

/-!
# The order of the rows of the graph table

Samples are listed in the order of their dates, and those of one date in the order in which their
rows were inserted. These two facts tell the list completely (`eq_of_datedAt`), so a new row comes
directly behind all that are not dated later (`sorted_append`), the rows before a cutoff are the
first ones (`sorted_since`), and the latest row is the last one (`latest?_eq_getLast?`).
-/

namespace BotOps.Store

open BotOps.Metrics

/-- Rows are in the order of their dates. -/
def InDateOrder (rows : List GraphRow) : Prop :=
  rows.Pairwise fun first second ↦ first.entryDate ≤ second.entryDate

/-- The rows of one date. -/
def datedAt (date : Octets) (rows : List GraphRow) : List GraphRow :=
  rows.filter fun row ↦ row.entryDate = date

section

variable {rows first second : List GraphRow} {row : GraphRow} {date : Octets}

private theorem mem_datedAt : row ∈ datedAt date rows ↔ row ∈ rows ∧ row.entryDate = date := by
  rw [datedAt, List.mem_filter, decide_eq_true_iff]

private theorem datedAt_append (date : Octets) (first second : List GraphRow) :
    datedAt date (first ++ second) = datedAt date first ++ datedAt date second :=
  List.filter_append ..

private theorem datedAt_cons_of_eq (h : row.entryDate = date) :
    datedAt date (row :: rows) = row :: datedAt date rows :=
  List.filter_cons_of_pos (decide_eq_true h)

private theorem datedAt_cons_of_ne (h : row.entryDate ≠ date) :
    datedAt date (row :: rows) = datedAt date rows :=
  List.filter_cons_of_neg (by simpa using h)

/-- Rows in the order of their dates are told by the rows of each date. -/
theorem eq_of_datedAt (hfirst : InDateOrder first) (hsecond : InDateOrder second)
    (h : ∀ date, datedAt date first = datedAt date second) : first = second := by
  have hmem (row : GraphRow) : row ∈ first ↔ row ∈ second := by
    have hdate := congrArg (row ∈ ·) (h row.entryDate)
    simpa only [mem_datedAt, and_true, eq_iff_iff] using hdate
  induction first generalizing second with
  | nil =>
    refine (List.eq_nil_iff_forall_not_mem.mpr fun row hrow ↦ ?_).symm
    exact List.not_mem_nil ((hmem row).mpr hrow)
  | cons row first ih =>
    obtain _ | ⟨other, second⟩ := second
    · exact absurd ((hmem row).mp List.mem_cons_self) List.not_mem_nil
    obtain ⟨hrow, hfirstRest⟩ := List.pairwise_cons.mp hfirst
    obtain ⟨hother, hsecondRest⟩ := List.pairwise_cons.mp hsecond
    -- The first rows have the least date of all, so they are the first ones of the same date.
    have hle : row.entryDate ≤ other.entryDate := by
      rcases List.mem_cons.mp ((hmem other).mpr List.mem_cons_self) with heq | hlater
      · exact heq ▸ Std.le_refl _
      · exact hrow other hlater
    have hge : other.entryDate ≤ row.entryDate := by
      rcases List.mem_cons.mp ((hmem row).mp List.mem_cons_self) with heq | hlater
      · exact heq ▸ Std.le_refl _
      · exact hother row hlater
    have hsame : other.entryDate = row.entryDate := Std.le_antisymm hge hle
    have hdate := h row.entryDate
    rw [datedAt_cons_of_eq rfl, datedAt_cons_of_eq hsame] at hdate
    obtain ⟨rfl, -⟩ := List.cons.inj hdate
    have hrest (date : Octets) : datedAt date first = datedAt date second := by
      have hdate := h date
      by_cases heq : row.entryDate = date
      · rw [datedAt_cons_of_eq heq, datedAt_cons_of_eq heq] at hdate
        exact (List.cons.inj hdate).2
      · rwa [datedAt_cons_of_ne heq, datedAt_cons_of_ne heq] at hdate
    refine congrArg _ (ih hfirstRest hsecondRest hrest fun other ↦ ?_)
    have hdate := congrArg (other ∈ ·) (hrest other.entryDate)
    simpa only [mem_datedAt, and_true, eq_iff_iff] using hdate

/-- A condition that holds of earlier dates if it holds of later ones is met by the first rows. -/
theorem InDateOrder.filter_append_filter (h : InDateOrder rows) {p : GraphRow → Bool}
    (earlier : ∀ a b : GraphRow, a.entryDate ≤ b.entryDate → p b = true → p a = true) :
    rows.filter p ++ rows.filter (fun row ↦ !p row) = rows := by
  induction rows with
  | nil => rfl
  | cons row rows ih =>
    obtain ⟨hrow, hrows⟩ := List.pairwise_cons.mp h
    by_cases hp : p row
    · rw [List.filter_cons_of_pos hp, List.filter_cons_of_neg (by simpa using hp), List.cons_append,
        ih hrows]
    · have hnone : ∀ other ∈ row :: rows, ¬ p other := by
        refine List.forall_mem_cons.mpr ⟨hp, fun other hother hlater ↦ ?_⟩
        exact hp (earlier row other (hrow other hother) hlater)
      rw [List.filter_eq_nil_iff.mpr hnone, List.nil_append, List.filter_eq_self]
      exact fun other hother ↦ by simpa using hnone other hother

end

namespace GraphTable

variable {table : GraphTable}

private theorem le_trans (a b c : GraphRow) (hab : decide (a.entryDate ≤ b.entryDate) = true)
    (hbc : decide (b.entryDate ≤ c.entryDate) = true) :
    decide (a.entryDate ≤ c.entryDate) = true :=
  decide_eq_true (Std.le_trans (of_decide_eq_true hab) (of_decide_eq_true hbc))

private theorem le_total (a b : GraphRow) :
    (decide (a.entryDate ≤ b.entryDate) || decide (b.entryDate ≤ a.entryDate)) = true := by
  simpa using Std.IsLinearPreorder.le_total a.entryDate b.entryDate

/-- Sorting keeps the rows and puts them into the order of their dates. -/
theorem inDateOrder_sorted (table : GraphTable) : InDateOrder table.sorted :=
  (List.pairwise_mergeSort le_trans le_total table.rows).imp of_decide_eq_true

/-- Sorting loses no row and adds none. -/
theorem perm_sorted (table : GraphTable) : table.sorted.Perm table.rows := List.mergeSort_perm _ _

/-- Sorting keeps the order of the rows of one date. -/
theorem datedAt_sorted (table : GraphTable) (date : Octets) :
    datedAt date table.sorted = datedAt date table.rows := by
  have hordered : (datedAt date table.rows).Pairwise fun a b ↦
      decide (a.entryDate ≤ b.entryDate) = true := by
    refine List.pairwise_of_forall_mem_list fun a ha b hb ↦ decide_eq_true ?_
    have hsame : a.entryDate = b.entryDate :=
      (mem_datedAt.mp ha).2.trans (mem_datedAt.mp hb).2.symm
    exact hsame ▸ Std.le_refl _
  have hsublist : (datedAt date table.rows).Sublist table.sorted :=
    List.sublist_mergeSort le_trans le_total hordered List.filter_sublist
  have hdated : (datedAt date table.rows).Sublist (datedAt date table.sorted) := by
    have hfilter := hsublist.filter fun row ↦ row.entryDate = date
    simpa only [datedAt, List.filter_filter, Bool.and_self] using hfilter
  exact (hdated.eq_of_length (table.perm_sorted.filter _).length_eq.symm).symm

/-- The rows that meet a condition on their dates, sorted before or after they are picked. -/
theorem sorted_filter {p : GraphRow → Bool} (table : GraphTable) :
    ({ table with rows := table.rows.filter p } : GraphTable).sorted = table.sorted.filter p := by
  refine eq_of_datedAt (inDateOrder_sorted _) (table.inDateOrder_sorted.filter _) fun date ↦ ?_
  have hcomm (rows : List GraphRow) :
      datedAt date (rows.filter p) = (datedAt date rows).filter p := by
    simp only [datedAt, List.filter_filter, Bool.and_comm]
  rw [datedAt_sorted, hcomm, hcomm, datedAt_sorted]

/-- A new row comes directly behind all that are not dated later. -/
theorem sorted_append (table : GraphTable) (row : Nat → GraphRow) :
    ∃ earlier later, table.sorted = earlier ++ later ∧
      (table.append row).sorted = earlier ++ row (table.lastId + 1) :: later ∧
      (∀ other ∈ earlier, other.entryDate ≤ (row (table.lastId + 1)).entryDate) ∧
      ∀ other ∈ later, (row (table.lastId + 1)).entryDate < other.entryDate := by
  have hrows : (table.append row).rows = table.rows ++ [row (table.lastId + 1)] := rfl
  generalize row (table.lastId + 1) = new at hrows ⊢
  let isEarlier (other : GraphRow) : Bool := other.entryDate ≤ new.entryDate
  have hsplit := table.inDateOrder_sorted.filter_append_filter (p := isEarlier) fun a b hab hb ↦
    decide_eq_true (Std.le_trans hab (of_decide_eq_true hb))
  have hearlier : ∀ other ∈ table.sorted.filter isEarlier, other.entryDate ≤ new.entryDate :=
    fun other hother ↦ of_decide_eq_true (List.mem_filter.mp hother).2
  have hlater : ∀ other ∈ table.sorted.filter fun other ↦ !isEarlier other,
      new.entryDate < other.entryDate := by
    intro other hother
    exact Std.not_le.mp (by simpa [isEarlier] using (List.mem_filter.mp hother).2)
  generalize table.sorted.filter isEarlier = earlier at hsplit hearlier
  generalize (table.sorted.filter fun other ↦ !isEarlier other) = later at hsplit hlater
  refine ⟨earlier, later, hsplit.symm, ?_, hearlier, hlater⟩
  refine eq_of_datedAt (inDateOrder_sorted _) ?_ fun date ↦ ?_
  · have hordered : InDateOrder (earlier ++ later) := hsplit ▸ table.inDateOrder_sorted
    obtain ⟨hfirst, hsecond, hboth⟩ := List.pairwise_append.mp hordered
    have hbehind : InDateOrder (new :: later) :=
      List.pairwise_cons.mpr ⟨fun other hother ↦ Std.le_of_lt (hlater other hother), hsecond⟩
    refine List.pairwise_append.mpr ⟨hfirst, hbehind, fun a ha b hb ↦ ?_⟩
    rcases List.mem_cons.mp hb with rfl | hb
    · exact hearlier a ha
    · exact hboth a ha b hb
  · have hold : datedAt date table.rows = datedAt date earlier ++ datedAt date later := by
      rw [← datedAt_append, hsplit, datedAt_sorted]
    rw [datedAt_sorted, hrows, datedAt_append, datedAt_append, hold]
    by_cases hdate : new.entryDate = date
    · have hnone : datedAt date later = [] := by
        refine List.filter_eq_nil_iff.mpr fun other hother hsame ↦ ?_
        have hlt := hlater other hother
        rw [of_decide_eq_true hsame, hdate] at hlt
        exact Std.lt_irrefl hlt
      rw [datedAt_cons_of_eq hdate, datedAt_cons_of_eq hdate, hnone, List.append_nil]
      rfl
    · rw [datedAt_cons_of_ne hdate, datedAt_cons_of_ne hdate]
      exact List.append_nil _

/-- The rows before a cutoff are the first ones. -/
theorem sorted_since (table : GraphTable) (cutoff : String) :
    ∃ old, table.sorted = old ++ (table.since cutoff).sorted ∧
      old.length = (table.before cutoff).length ∧
      (∀ row ∈ old, row.entryDate < Octets.ofString cutoff) ∧
      ∀ row ∈ (table.since cutoff).sorted, Octets.ofString cutoff ≤ row.entryDate := by
  have hsince : (table.since cutoff).sorted =
      table.sorted.filter fun row ↦ ¬ row.entryDate < Octets.ofString cutoff :=
    sorted_filter table
  refine ⟨table.sorted.filter fun row ↦ row.entryDate < Octets.ofString cutoff, ?_, ?_,
    fun row hrow ↦ ?_, fun row hrow ↦ ?_⟩
  · have hsplit := table.inDateOrder_sorted.filter_append_filter
      (p := fun row ↦ row.entryDate < Octets.ofString cutoff) fun a b hab hb ↦
        decide_eq_true (Std.lt_of_le_of_lt hab (of_decide_eq_true hb))
    rw [hsince]
    simpa only [decide_not] using hsplit.symm
  · exact (table.perm_sorted.filter _).length_eq
  · exact of_decide_eq_true (List.mem_filter.mp hrow).2
  · rw [hsince] at hrow
    exact Std.not_lt.mp (of_decide_eq_true (List.mem_filter.mp hrow).2)

/-- The latest row is the last one. -/
theorem latest?_eq_getLast? (table : GraphTable) : table.latest? = table.sorted.getLast? := by
  obtain ⟨added, rows, lastId⟩ := table
  induction rows using List.reverseRecOn with
  | nil => simp [latest?, sorted]
  | append_singleton rows row ih =>
    obtain ⟨earlier, behind, hsorted, hnew, hearlier, hbehind⟩ :=
      sorted_append ⟨added, rows, lastId⟩ fun _ ↦ row
    -- Neither query looks at the greatest number, so the table may as well have got the row last.
    have hlatest : (GraphTable.mk added (rows ++ [row]) lastId).latest? =
        later (GraphTable.mk added rows lastId).latest? row :=
      latest?_append ⟨added, rows, lastId⟩ fun _ ↦ row
    change _ = ((GraphTable.mk added rows lastId).append fun _ ↦ row).sorted.getLast?
    rw [hlatest, ih, hsorted, hnew]
    rcases List.eq_nil_or_concat behind with rfl | ⟨between, last, rfl⟩
    · rw [List.append_nil, List.getLast?_concat]
      cases hlast : earlier.getLast? with
      | none => rfl
      | some best => exact congrArg some (if_pos (hearlier best (List.mem_of_getLast? hlast)))
    · have hlt := hbehind last (by simp)
      rw [List.concat_eq_append, ← List.append_assoc, List.getLast?_concat, ← List.cons_append,
        ← List.append_assoc, List.getLast?_concat]
      exact congrArg some (if_neg (Std.not_le.mpr hlt))

end GraphTable

end BotOps.Store
