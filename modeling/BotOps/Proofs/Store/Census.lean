import BotOps.Proofs.Store.Counter
import Mathlib.Algebra.Order.BigOperators.Group.List
import Mathlib.Algebra.Order.Ring.Int

/-!
# The census

The population of the bot is summed up in 64 bits. A sum that is given is the exact one
(`toInt_of_census?_eq_some`), and among counters without a sign none is missing but one that leaves
the range (`census?_eq_none_iff`).
-/

namespace BotOps.Metrics

/-- The counters of a population. -/
def Population.counters : List (Population → Int64) := [users, servers, channels, memory, games]

end BotOps.Metrics

namespace BotOps.Store

open BotOps.Metrics

/-- The exact sum of a counter over the clusters that are not for development. -/
def exactCensus (rows : List ClusterRow) (counter : Population → Int64) : Int :=
  ((rows.filter fun row ↦ row.dev = 0).map fun row ↦ (counter row.population).toInt).sum

/-- No cluster that is not for development has a counter below 0. -/
def CountsUp (rows : List ClusterRow) : Prop :=
  ∀ row ∈ rows, row.dev = 0 → ∀ counter ∈ Population.counters, 0 ≤ (counter row.population).toInt

section

variable {a b sum : Int64} {column : List Int64}

/-- A sum that is given is exact. -/
theorem toInt_of_addExact?_eq_some (h : addExact? a b = some sum) :
    sum.toInt = a.toInt + b.toInt := by
  by_cases hrange : InRange (a.toInt + b.toInt)
  · obtain ⟨exact, hexact, hvalue⟩ := addExact?_eq_some hrange
    rw [← Option.some.inj (hexact.symm.trans h), hvalue]
  · have hnone : addExact? a b = none := if_neg hrange
    rw [hnone] at h
    cases h

/-- A running sum that is given is exact. -/
theorem toInt_of_foldlM_eq_some (h : column.foldlM addExact? a = some sum) :
    sum.toInt = a.toInt + (column.map Int64.toInt).sum := by
  induction column generalizing a with
  | nil =>
    obtain rfl := Option.some.inj h
    simp
  | cons b column ih =>
    rw [List.foldlM_cons] at h
    obtain ⟨next, hnext, hrest⟩ := Option.bind_eq_some_iff.mp h
    rw [ih hrest, toInt_of_addExact?_eq_some hnext, List.map_cons, List.sum_cons]
    omega

/-- A running sum of numbers without a sign has no value just if it leaves the range. -/
theorem foldlM_eq_none_iff (ha : 0 ≤ a.toInt) (hcolumn : ∀ n ∈ column, 0 ≤ n.toInt) :
    column.foldlM addExact? a = none ↔
      Int64.maxValue.toInt < a.toInt + (column.map Int64.toInt).sum := by
  induction column generalizing a with
  | nil =>
    have hle := a.toInt_le
    constructor
    · intro h
      cases h
    · intro h
      simp only [List.map_nil, List.sum_nil] at h
      omega
  | cons b column ih =>
    obtain ⟨hb, hcolumn⟩ := List.forall_mem_cons.mp hcolumn
    have hrest : 0 ≤ (column.map Int64.toInt).sum := by
      apply List.sum_nonneg
      simpa using hcolumn
    rw [List.foldlM_cons, List.map_cons, List.sum_cons]
    by_cases hrange : InRange (a.toInt + b.toInt)
    · obtain ⟨next, hnext, hvalue⟩ := addExact?_eq_some hrange
      have hpos : 0 ≤ next.toInt := by omega
      rw [hnext, Option.bind_eq_bind, Option.bind_some, ih hpos hcolumn, hvalue, Int.add_assoc]
    · have hnone : addExact? a b = none := if_neg hrange
      have hmin : Int64.minValue.toInt ≤ 0 := by decide
      have hover : ¬ a.toInt + b.toInt ≤ Int64.maxValue.toInt := fun hle ↦ hrange ⟨by omega, hle⟩
      rw [hnone]
      constructor
      · intro _
        omega
      · intro _
        rfl

end

section

variable {rows : List ClusterRow} {counter : Population → Int64} {population : Population}

private theorem sum_map_toInt (rows : List ClusterRow) (counter : Population → Int64) :
    (((rows.filter fun row ↦ row.dev = 0).map fun row ↦ counter row.population).map
      Int64.toInt).sum = exactCensus rows counter := by
  rw [List.map_map]
  rfl

/-- The sum of a counter that is given is exact. -/
theorem toInt_of_censusOf_eq_some {sum : Int64} (h : censusOf rows counter = some sum) :
    sum.toInt = exactCensus rows counter := by
  have hsum := toInt_of_foldlM_eq_some h
  rw [sum_map_toInt] at hsum
  simpa using hsum

/-- A counter without a sign has no sum just if that leaves the range. -/
theorem censusOf_eq_none_iff
    (h : ∀ row ∈ rows, row.dev = 0 → 0 ≤ (counter row.population).toInt) :
    censusOf rows counter = none ↔ Int64.maxValue.toInt < exactCensus rows counter := by
  have hcolumn : ∀ n ∈ (rows.filter fun row ↦ row.dev = 0).map fun row ↦ counter row.population,
      0 ≤ n.toInt := by
    intro n hn
    obtain ⟨row, hrow, rfl⟩ := List.mem_map.mp hn
    obtain ⟨hmem, hdev⟩ := List.mem_filter.mp hrow
    exact h row hmem (of_decide_eq_true hdev)
  rw [censusOf, sumExact?, foldlM_eq_none_iff (by decide) hcolumn, sum_map_toInt]
  simp

/-- The census has the sum of each counter. -/
theorem census?_eq_some_iff :
    census? rows = some population ↔
      ∀ counter ∈ Population.counters, censusOf rows counter = some (counter population) := by
  cases population
  simp [census?, Population.counters, Option.bind_eq_some_iff]

/-- There is no census just if some counter has no sum. -/
theorem census?_eq_none_iff_exists :
    census? rows = none ↔ ∃ counter ∈ Population.counters, censusOf rows counter = none := by
  simp only [census?, Population.counters, List.mem_cons, List.not_mem_nil, or_false,
    exists_eq_or_imp, exists_eq_left]
  cases censusOf rows Population.users <;> cases censusOf rows Population.servers <;>
    cases censusOf rows Population.channels <;> cases censusOf rows Population.memory <;>
    cases censusOf rows Population.games <;> simp

/-- What the census says is exact. -/
theorem toInt_of_census?_eq_some (h : census? rows = some population)
    (hcounter : counter ∈ Population.counters) :
    (counter population).toInt = exactCensus rows counter :=
  toInt_of_censusOf_eq_some (census?_eq_some_iff.mp h counter hcounter)

/-- Where no counter has a sign there is no census just if some sum leaves the range. -/
theorem census?_eq_none_iff (h : CountsUp rows) :
    census? rows = none ↔
      ∃ counter ∈ Population.counters, Int64.maxValue.toInt < exactCensus rows counter := by
  rw [census?_eq_none_iff_exists]
  refine exists_congr fun counter ↦ and_congr_right fun hcounter ↦ ?_
  exact censusOf_eq_none_iff fun row hrow hdev ↦ h row hrow hdev counter hcounter

/-- The clusters for development are of no account. -/
theorem census?_congr {others : List ClusterRow}
    (h : (rows.filter fun row ↦ row.dev = 0) = others.filter fun row ↦ row.dev = 0) :
    census? rows = census? others := by
  unfold census? censusOf
  rw [h]

/-- The population of the bot is that of the census, and the store stays as it is. -/
theorem run_aggregate {store : Store} (h : store.clusters = some rows) :
    aggregate.run store =
      match census? rows with
      | some population => (.ok population, store)
      | none => (.error .overflow, store) := by
  unfold aggregate
  rw [run_execute, Statement.bind_ok (Statement.content_some h)]
  cases census? rows <;> rfl

end

end BotOps.Store
