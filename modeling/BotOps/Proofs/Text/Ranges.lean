import BotOps.Text.Number
import Mathlib.Data.List.Basic

/-!
# Joined ranges

Putting the ranges of a class in order and joining those that touch changes nothing about which
characters belong to it, so a character is a decimal digit of some script just if its general
category is Nd: `isDecimalDigit_eq_contains`.
-/

namespace BotOps.Text

namespace Ranges

variable {found ranges : Ranges} {range : Nat × Nat}

private theorem contains_cons (range : Nat × Nat) (ranges : Ranges) (c : Char) :
    contains (range :: ranges) c = true ↔
      (range.1 ≤ c.toNat ∧ c.toNat ≤ range.2) ∨ ranges.contains c = true := by
  simp [contains]

/-- A range that begins no earlier than the last one adds its characters, whether it extends that
one or is put behind it. -/
theorem contains_joinTo (h : ∀ last ∈ found.head?, last.1 ≤ range.1) (c : Char) :
    (joinTo found range).contains c = true ↔
      found.contains c = true ∨ range.1 ≤ c.toNat ∧ c.toNat ≤ range.2 := by
  cases found with
  | nil => rw [joinTo, contains_cons, or_comm]
  | cons last found =>
    have hlast : last.1 ≤ range.1 := h last rfl
    rw [joinTo]
    split
    · have hextended : last.1 ≤ c.toNat ∧ c.toNat ≤ max last.2 range.2 ↔
          (last.1 ≤ c.toNat ∧ c.toNat ≤ last.2) ∨ range.1 ≤ c.toNat ∧ c.toNat ≤ range.2 := by
        omega
      rw [contains_cons, contains_cons, hextended, or_right_comm]
    · rw [contains_cons, or_comm]

/-- What is joined last begins no later than the ranges still to come. -/
theorem head?_joinTo_le {more : Ranges} (h : ∀ last ∈ found.head?, last.1 ≤ range.1)
    (hmore : ∀ next ∈ more, range.1 ≤ next.1) :
    ∀ last ∈ (joinTo found range).head?, ∀ next ∈ more, last.1 ≤ next.1 := by
  intro last hlast next hnext
  cases found with
  | nil =>
    obtain rfl : range = last := Option.some.inj hlast
    exact hmore next hnext
  | cons before found =>
    have hbefore : before.1 ≤ range.1 := h before rfl
    rw [joinTo] at hlast
    split at hlast
    · obtain rfl := Option.some.inj hlast
      exact Nat.le_trans hbefore (hmore next hnext)
    · obtain rfl := Option.some.inj hlast
      exact hmore next hnext

/-- Joining ordered ranges one by one keeps the characters of all of them. -/
theorem contains_foldl_joinTo (hordered : ranges.Pairwise fun a b ↦ a.1 ≤ b.1)
    (h : ∀ last ∈ found.head?, ∀ range ∈ ranges, last.1 ≤ range.1) (c : Char) :
    (ranges.foldl joinTo found).contains c = true ↔
      found.contains c = true ∨ ranges.contains c = true := by
  induction ranges generalizing found with
  | nil => simp [contains]
  | cons range ranges ih =>
    obtain ⟨hrange, hordered⟩ := List.pairwise_cons.mp hordered
    have hfound : ∀ last ∈ found.head?, last.1 ≤ range.1 :=
      fun last hlast ↦ h last hlast range List.mem_cons_self
    rw [List.foldl_cons, ih hordered (head?_joinTo_le hfound hrange), contains_joinTo hfound,
      or_assoc, contains_cons]

/-- A class of joined ranges has the characters of the ranges. -/
theorem contains_joined (ranges : Ranges) (c : Char) :
    (joined ranges).contains c = ranges.contains c := by
  have hordered : (ranges.mergeSort fun a b ↦ a.1 ≤ b.1).Pairwise fun a b ↦ a.1 ≤ b.1 := by
    refine (List.pairwise_mergeSort ?_ ?_ ranges).imp of_decide_eq_true
    · intro a b c hab hbc
      exact decide_eq_true (Nat.le_trans (of_decide_eq_true hab) (of_decide_eq_true hbc))
    · intro a b
      simp only [Bool.or_eq_true, decide_eq_true_eq]
      exact Nat.le_total a.1 b.1
  have hnone : ∀ last ∈ ([] : Ranges).head?, ∀ range ∈ ranges.mergeSort fun a b ↦ a.1 ≤ b.1,
      last.1 ≤ range.1 := by simp
  have hfold := contains_foldl_joinTo hordered hnone c
  simp only [contains_iff, List.not_mem_nil, false_and, exists_false, false_or,
    List.mem_mergeSort] at hfold
  rw [Bool.eq_iff_iff, contains_iff, contains_iff, ← hfold]
  simp only [joined, List.mem_reverse]

end Ranges

/-- The decimal digits of all scripts are the characters of general category Nd. -/
theorem isDecimalDigit_eq_contains (c : Char) : isDecimalDigit c = decimalDigits.contains c := by
  rw [decimalDigits, Ranges.together, Ranges.contains_joined, Ranges.contains, isDecimalDigit,
    List.flatten_singleton, List.any_map]
  rfl

end BotOps.Text
